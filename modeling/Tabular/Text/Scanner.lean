import Tabular.Fault
import Tabular.Text.Blank

set_option autoImplicit false

/-! # The scanner

Both languages are scanned in the same way: blanks are skipped, at any other character a lexeme is
read, and the scan goes on behind it. They differ in how a lexeme is read and in what their tokens
keep of it.
-/

namespace Tabular

/-- The tokens of a text that starts at a place. A lexeme is read at each character that is no blank;
the token is made of the lexeme, its characters and its place. -/
def scanWith {L T : Type} (read : Char → List Char → Except Cause (L × Nat))
    (token : L → List Char → Nat → T) (offset : Nat) : List Char → Except Fault (List T)
  | [] => .ok []
  | c :: rest =>
    if isBlank c then scanWith read token (offset + c.utf8Size) rest
    else
      match read c rest with
      | .error cause => .error (.placed cause offset)
      | .ok (lexeme, more) =>
        let lexed := c :: rest.take more
        match scanWith read token (offset + byteLength lexed) (rest.drop more) with
        | .error fault => .error fault
        | .ok tokens => .ok (token lexeme lexed offset :: tokens)
termination_by cs => cs.length
decreasing_by all_goals simp only [List.length_cons, List.length_drop]; omega

end Tabular
