import MonkeyScan.Cursor
import MonkeyScan.Render.Json
import MonkeyScan.Text.Quoted

/-!
Token listings in their two formats. As text, each token has a line with the place where it starts,
its kind and its characters in quotes. As JSON, each token is an object in one array. Both can leave
the places out. A listing with an integer beyond the limit of digits is not written
(`writeListing`); there is none in a listing of the tokens of a text.
-/

namespace MonkeyScan

/-- The formats of a listing. -/
inductive Format where
  | text
  | json
deriving DecidableEq

namespace Format

/-- The formats, in the order in which they are offered. -/
def all : List Format := [text, json]

/-- The name of a format. -/
def name : Format → String
  | text => "text"
  | json => "json"

/-- The format of a name. -/
def ofName? (s : String) : Option Format := all.find? (·.name == s)

theorem ofName?_name (f : Format) : ofName? f.name = some f := by cases f <;> decide

theorem ofName?_eq_some_iff {s : String} {f : Format} : ofName? s = some f ↔ s = f.name := by
  constructor
  · intro h
    have := List.find?_some h
    simpa using (beq_iff_eq.1 this).symm
  · rintro rfl; exact ofName?_name f

end Format

namespace Render

/-- A token's line: the place where it starts unless left out, its kind, its characters. -/
def tokenLine (positions : Bool) (t : Token) : String :=
  let start := t.span.start
  let place :=
    if positions then
      String.ofList (Text.integer start.line) ++ ":" ++ String.ofList (Text.integer start.column) ++
        " "
    else ""
  place ++ t.kind.name ++ " " ++ Text.quote t.literal

/-- A token line for each token, ended by a line feed; no tokens leave the line feed alone. -/
def textListing (positions : Bool) (ts : List Token) : String :=
  "\n".intercalate (ts.map (tokenLine positions)) ++ "\n"

/-- A place as an object. -/
def placeJson (p : Position) : Json :=
  .object [("line", .integer p.line), ("column", .integer p.column), ("offset", .integer p.offset)]

/-- A token as an object, with both its places unless left out. -/
def tokenJson (positions : Bool) (t : Token) : Json :=
  .object ([("type", .string t.kind.name), ("literal", .string t.literal)] ++
    if positions then [("start", placeJson t.span.start), ("end", placeJson t.span.stop)] else [])

/-- The tokens as one array, ended by a line feed. -/
def jsonListing (positions : Bool) (ts : List Token) : String :=
  (Json.array (ts.map (tokenJson positions))).text ++ "\n"

/-- A listing in a format. -/
def listing (format : Format) (positions : Bool) (ts : List Token) : String :=
  match format with
  | .text => textListing positions ts
  | .json => jsonListing positions ts

/-- The integers in a token's line. -/
def lineIntegers (positions : Bool) (t : Token) : List Int :=
  if positions then [t.span.start.line, t.span.start.column] else []

/-- The integers in a listing. -/
def listingIntegers (format : Format) (positions : Bool) (ts : List Token) : List Int :=
  match format with
  | .text => ts.flatMap (lineIntegers positions)
  | .json => (Json.array (ts.map (tokenJson positions))).integers

/-- A listing of any tokens, if all integers in it are short enough to be written. -/
def writeListing (format : Format) (positions : Bool) (ts : List Token) :
    Except Text.NumeralError String :=
  Text.written (listingIntegers format positions ts) (listing format positions ts)

end Render

end MonkeyScan
