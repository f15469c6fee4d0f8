import TypeGuard.TypeScript.Grammar

namespace TypeGuard.TypeScript

def Nesting.afterPiece (ending : Scan.TemplateEnd) (n : Nesting) : Nesting :=
  let n := n.after .other false
  match ending with
  | .hole => n.inHole
  | .closed => n.after (.symbol .backquote) false
  | .unclosed => n

namespace Parser

variable {src : List Char}

/-- Reads the piece of a template whose opening sign comes next, up to the sign that ends it. A bad
escape is an error, unless the template is tagged. -/
def templatePiece (tagged : Bool) : Parser src Scan.TemplateEnd := do
  let place := (← next).place
  let piece := Scan.template (place.rest.drop 1)
  if !(← get).context.trial then
    piece.remarks.forM fun r => add (Token.faultAt (place.advance 1) r)
  let before := 1 + piece.length - piece.ending.length
  let after := Nesting.afterPiece piece.ending
  match piece.ending, piece.bad with
  | .unclosed, _ =>
    jump 0 (1 + piece.length) after
    throw { place := place.stop, cause := .unexpectedEnd }
  | ending, some r =>
    if tagged then
      jump before (1 + piece.length) after
      return ending
    else
      jump 0 before after
      throw (Token.faultAt (place.advance 1) r)
  | ending, none =>
    jump before (1 + piece.length) after
    return ending

/-- Reads a template whose opening mark comes next. After a hole the template goes on only if the
signs in the hole have left it open. -/
def template (tagged : Bool) (hole : Parser src Unit) : Parser src Unit :=
  loop () fun _ => do
    match ← templatePiece tagged with
    | .hole =>
      hole
      if !(← is .braceClose) then fail (.expected Symbol.braceClose.text (← next).lexeme.shown)
      if (← get).nesting.inTemplate then return .again ()
      else
        bump
        let _ ← require
        unexpected "template token"
    | _ => return .done ()

end Parser

end TypeGuard.TypeScript
