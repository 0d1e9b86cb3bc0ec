import SqlText.Quoting
import SqlText.Value.Basic

/-!
Values as quoted tokens. Only texts have one; with anything else the opening quote is written before
it turns out.
-/

namespace SqlText.Value

def escape (src : Value) (quote : String) : Writer Unit :=
  match src.core with
  | text s => Quoting.escape s quote
  | bytes _ => do
    Writer.put quote
    throw .bytesExpected
  | _ => do
    Writer.put quote
    throw (.missingOperation src.type "split")

def quote? (src : Value) (quote : String) : Except Failure String := (src.escape quote).text

def quoteString? (src : Value) : Except Failure String := src.quote? Quoting.literalQuote

end SqlText.Value
