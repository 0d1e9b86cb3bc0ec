import SqlText.Sink

/-!
Quoted tokens. A token is a text between two quotes in which a backslash is written twice and a
quote has a backslash in front. The quote may be any nonempty text.
-/

namespace SqlText.Quoting

/-- The stretches of a text between the occurrences of `mark`, which are found from left to right
and do not overlap. `skip` characters still belong to the occurrence found last. -/
def stretches (mark : List Char) (skip : Nat) : List Char → List (List Char)
  | [] => [[]]
  | c :: rest =>
    match skip with
    | k + 1 => stretches mark k rest
    | 0 =>
      if mark.isPrefixOf (c :: rest) then [] :: stretches mark (mark.length - 1) rest
      else
        match stretches mark 0 rest with
        | [] => [[c]]
        | s :: ss => (c :: s) :: ss

/-- The pieces of a text without quotes: backslashes are written twice. -/
def plainPieces (cs : List Char) : List (List Char) :=
  (stretches ['\\'] 0 cs).intersperse ['\\', '\\']

/-- The pieces between the two outer quotes. -/
def bodyPieces (quote src : List Char) : List (List Char) :=
  [['\\'], quote].intercalate ((stretches quote 0 src).map plainPieces)

/-- The pieces of a token, in the order in which they are written. -/
def tokenPieces (quote src : List Char) : List (List Char) :=
  quote :: bodyPieces quote src ++ [quote]

/-- Writes a text as a token. There is no token for the empty quote, which is found out after the
opening quote is written. -/
def escape (src quote : String) : Writer Unit := do
  if quote.isEmpty then
    Writer.put quote
    throw .emptyQuote
  else
    Writer.putAll ((tokenPieces quote.toList src.toList).map String.ofList)

def literalQuote : String := "'"

/-- The quote of identifiers where no dialect says otherwise. -/
def identifierQuote : String := "`"

end SqlText.Quoting
