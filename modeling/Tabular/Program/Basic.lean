import Tabular.Program.Step

set_option autoImplicit false

/-! # Programs

A program is a list of transforms. It is compiled as a whole, and the first transform whose text is
at fault is reported. A compiled program runs its steps in order over any table and names the
result after the table and the transforms.
-/

namespace Tabular

/-- Why a program does not compile: the place of the first transform at fault, and its fault. -/
structure ProgramFault where
  index : Nat
  source : Fault
deriving DecidableEq, Repr

/-- The message of a fault of a program. -/
def ProgramFault.message (fault : ProgramFault) : String :=
  s!"transform {fault.index} does not compile: {fault.source.message}"

/-- A **program** is a list of transforms, in the order in which they run. -/
abbrev Program := List Transform

/-- A compiled program. -/
structure CompiledProgram where
  steps : List Step
  summary : String

namespace Program

/-- Compiles transforms that stand at a place of a program and after it. -/
def compileFrom (index : Nat) : Program → Except ProgramFault (List Step)
  | [] => .ok []
  | t :: rest =>
    match Step.ofTransform t with
    | .error fault => .error ⟨index, fault⟩
    | .ok step =>
      match compileFrom (index + 1) rest with
      | .error fault => .error fault
      | .ok steps => .ok (step :: steps)

/-- Compiles a program. -/
def compile (p : Program) : Except ProgramFault CompiledProgram := do
  pure ⟨← compileFrom 0 p, summarize p⟩

end Program

namespace CompiledProgram

/-- Runs a compiled program over a table. -/
def apply (p : CompiledProgram) (base : Table) : Table :=
  let result := p.steps.foldl (fun t step => step.run t) base
  if p.summary = "" then result else { result with name := s!"{base.name} | {p.summary}" }

end CompiledProgram

/-- Compiles a program and runs it over a table. -/
def Program.apply (p : Program) (base : Table) : Except ProgramFault Table := do
  pure ((← p.compile).apply base)

end Tabular
