import MonkeyScan.Proofs.JsonReader
import MonkeyScan.Render.Listing

/-!
JSON listings are lossless. A document is in ASCII (`isAscii_render`), and a reader of JSON gets
back from it what it was written from (`reads_render`): by induction on the document, in which each
part is read as its value whatever comes behind it. For token listings this means that the tokens
can be had back from a listing with places, as far as their places can be written at all. Main
statement: `listing_json`.
-/

namespace MonkeyScan

namespace Render.Json

mutual

/-- The value of a document. -/
def datum : Json → Datum
  | string s => .string s
  | integer n => .integer n
  | array items => .array (datums items)
  | object members => .object (memberDatums members)

/-- The values of items. -/
def datums : List Json → List Datum
  | [] => []
  | item :: more => item.datum :: datums more

/-- The values of members, with their names. -/
def memberDatums : List (String × Json) → List (String × Datum)
  | [] => []
  | (name, value) :: more => (name, value.datum) :: memberDatums more

end

theorem datums_eq_map (items : List Json) : datums items = items.map datum := by
  induction items with
  | nil => rfl
  | cons item more ih => rw [datums, ih, List.map_cons]

end Render.Json

namespace Datum

open Render

section

variable {text : List Char} {turn turn' : Turn}

/-! ## Strings -/

/-- A unit in four digits is read as that unit. -/
theorem readFrom_inside_code {u : Nat} (small : u < 0x10000) (units : List Nat)
    (rest : List Char) :
    readFrom (.inside units) turn ('\\' :: 'u' :: Text.hexDigits 4 u ++ rest) =
      readFrom (.inside (units ++ [u])) turn rest := by
  have value : Text.ofHex? (Text.hexDigits 4 u) = some u := Text.ofHex?_hexDigits small
  obtain ⟨a, b, c, d, digits⟩ := List.length_eq_four.1 (Text.length_hexDigits 4 u)
  rw [digits] at value ⊢
  have last : (Spot.code units [a, b, c]).advance d = some ([], .inside (units ++ [u])) := by
    rw [Spot.advance, if_neg (by simp)]
    change (Text.ofHex? [a, b, c, d]).map _ = _
    rw [value, Option.map_some]
  change readFrom (.code units [a, b, c]) turn (d :: rest) = _
  rw [readFrom_cons, last]
  rfl

theorem readFrom_inside_codes {us : List Nat} (small : ∀ u ∈ us, u < 0x10000) (units : List Nat)
    (rest : List Char) :
    readFrom (.inside units) turn
        ((us.flatMap fun u => '\\' :: 'u' :: Text.hexDigits 4 u) ++ rest) =
      readFrom (.inside (units ++ us)) turn rest := by
  induction us generalizing units with
  | nil => rw [List.flatMap_nil, List.nil_append, List.append_nil]
  | cons u us ih =>
    rw [List.flatMap_cons, List.append_assoc, readFrom_inside_code (small u List.mem_cons_self),
      ih fun v mem => small v (List.mem_cons_of_mem _ mem), List.append_assoc]
    rfl

theorem lt_of_mem_units {c : Char} {u : Nat} (mem : u ∈ Text.units c) : u < 0x10000 := by
  have valid := Text.toNat_char c
  unfold Text.units at mem
  split_ifs at mem with small
  · rw [List.mem_singleton] at mem
    omega
  · rw [List.mem_cons, List.mem_singleton] at mem
    omega

/-- A letter behind a backslash is read as its unit. -/
theorem readFrom_inside_escape {c e : Char} (other : e ≠ 'u')
    (listed : escapes.lookup e = some c.toNat) (small : c.toNat < 0x10000) (units : List Nat)
    (rest : List Char) :
    readFrom (.inside units) turn ('\\' :: e :: rest) =
      readFrom (.inside (units ++ Text.units c)) turn rest := by
  have last : (Spot.escape units).advance e = some ([], .inside (units ++ Text.units c)) := by
    rw [Spot.advance, if_neg other, listed, Option.map_some, Text.units, if_pos small]
  change readFrom (.escape units) turn (e :: rest) = _
  rw [readFrom_cons, last]
  rfl

/-- A character is read back from its form in a string. -/
theorem readFrom_inside_escapedChar (c : Char) (units : List Nat) (rest : List Char) :
    readFrom (.inside units) turn (Json.escapedChar c ++ rest) =
      readFrom (.inside (units ++ Text.units c)) turn rest := by
  unfold Json.escapedChar
  split_ifs with quote slash feed carriage tab backspace form plain
  · exact readFrom_inside_escape (by decide) (by rw [quote]; rfl) (by rw [quote]; decide) units rest
  · exact readFrom_inside_escape (by decide) (by rw [slash]; rfl) (by rw [slash]; decide) units rest
  · exact readFrom_inside_escape (by decide) (by rw [feed]; rfl) (by rw [feed]; decide) units rest
  · exact readFrom_inside_escape (by decide) (by rw [carriage]; rfl) (by rw [carriage]; decide)
      units rest
  · exact readFrom_inside_escape (by decide) (by rw [tab]; rfl) (by rw [tab]; decide) units rest
  · exact readFrom_inside_escape (by decide) (by rw [backspace]; rfl) (by omega) units rest
  · exact readFrom_inside_escape (by decide) (by rw [form]; rfl) (by omega) units rest
  · have step : (Spot.inside units).advance c = some ([], .inside (units ++ Text.units c)) := by
      rw [Spot.advance, if_neg quote, if_neg slash, if_pos plain.1]
    rw [List.singleton_append, readFrom_cons, step]
    rfl
  -- a character beyond the first plane is two escapes, whose units are joined by the reader
  · exact readFrom_inside_codes (fun u mem => lt_of_mem_units mem) units rest

theorem readFrom_inside_flatMap (cs : List Char) (units : List Nat) (rest : List Char) :
    readFrom (.inside units) turn (cs.flatMap Json.escapedChar ++ rest) =
      readFrom (.inside (units ++ Text.utf16 cs)) turn rest := by
  induction cs generalizing units with
  | nil => rw [List.flatMap_nil, Text.utf16, List.flatMap_nil, List.nil_append, List.append_nil]
  | cons c cs ih =>
    rw [List.flatMap_cons, List.append_assoc, readFrom_inside_escapedChar, ih, Text.utf16_cons,
      List.append_assoc]

theorem reads_stringText {s : String} (step : turn.step (.string s) = some turn') :
    Reads (Json.stringText s) turn turn' := by
  intro rest _
  change readFrom (.inside []) turn ((s.toList.flatMap Json.escapedChar ++ ['"']) ++ rest) = _
  rw [List.append_assoc, readFrom_inside_flatMap, List.nil_append, List.singleton_append,
    readFrom_inside_quote (Text.ofUtf16?_utf16 _) step]

/-! ## Numbers -/

/-- A whole number is read back from its digits. -/
theorem unsigned?_digits (sign : Int) (n : Nat) :
    unsigned? sign (Text.digits n) = some (.integer (sign * n)) := by
  have all : ∀ c ∈ Text.digits n, c.isDigit = true := fun _ => Text.isDigit_of_mem_digits
  have whole : (Text.digits n).takeWhile Char.isDigit = Text.digits n :=
    List.takeWhile_eq_self_iff.2 all
  have more : (Text.digits n).dropWhile Char.isDigit = [] := List.dropWhile_eq_nil_iff.2 all
  have leading : ¬ (Text.digits n = [] ∨
      (Text.digits n).head? = some '0' ∧ Text.digits n ≠ ['0']) := by
    rintro (empty | ⟨zero, longer⟩)
    · exact Text.digits_ne_nil n empty
    · rcases Nat.eq_zero_or_pos n with rfl | positive
      · exact longer (Text.digits_of_lt (by decide))
      · exact Text.head?_digits positive zero
  rw [unsigned?, whole, more, if_neg leading, if_pos rfl, Text.ofDigits_digits]

theorem number?_integer (n : Int) : number? (Text.integer n) = some (.integer n) := by
  cases n with
  | ofNat n =>
    have first : Text.digits n ≠ '-' :: (Text.digits n).tail := by
      intro minus
      have := Text.isDigit_of_mem_digits (minus ▸ List.mem_cons_self : '-' ∈ Text.digits n)
      exact absurd this (by decide)
    have unsigned : number? (Text.digits n) = unsigned? 1 (Text.digits n) := by
      unfold number?
      split
      case h_1 cs split => exact absurd (by rw [split]; rfl) first
      case h_2 => rfl
    rw [Text.integer, unsigned, unsigned?_digits]
    simp
  | negSucc n =>
    have signed : number? ('-' :: Text.digits (n + 1)) = unsigned? (-1) (Text.digits (n + 1)) := rfl
    rw [Text.integer, signed, unsigned?_digits]
    simp [Int.negSucc_eq]

theorem isBare_of_mem_integer {n : Int} {c : Char} (mem : c ∈ Text.integer n) :
    isBare c = true := by
  have apart : ∀ c ∈ [' ', '\t', '\n', '\r', '[', ']', '\x7b', '\x7d', ':', ',', '"'],
      ¬ (c = '-' ∨ c.isDigit = true) := by
    simp
  have outside := fun listed => apart c listed (Text.of_mem_integer mem)
  simpa [isBare, isBlank, isMark, not_or, and_assoc] using outside

theorem atom?_integer (n : Int) : atom? (Text.integer n) = some (.integer n) := by
  have other {w : List Char} (c : Char) (mem : c ∈ w) (letter : ¬ (c = '-' ∨ c.isDigit = true)) :
      Text.integer n ≠ w := by
    rintro rfl
    exact letter (Text.of_mem_integer mem)
  rw [atom?, if_neg (other 'u' (by decide) (by decide)), if_neg (other 'u' (by decide) (by decide)),
    if_neg (other 'a' (by decide) (by decide)), number?_integer]

theorem reads_integer {n : Int} (step : turn.step (.atom (.integer n)) = some turn') :
    Reads (Text.integer n) turn turn' :=
  reads_atom (Text.integer_ne_nil n) (fun _ => isBare_of_mem_integer) (atom?_integer n) step

/-! ## Documents -/

theorem Reads.newLine (depth : Nat) (h : Reads text turn turn') :
    Reads (Json.newLine depth ++ text) turn turn' := by
  have indented : ∀ n, Reads (List.replicate n ' ' ++ text) turn turn' := by
    intro n
    induction n with
    | zero => exact h
    | succ n ih => exact Reads.blank (by decide) ih
  exact Reads.blank (by decide) (indented _)

end

/-- The reader goes on with a value, whatever the value starts with. -/
def Turn.Expects (turn : Turn) (frames : List Frame) : Prop :=
  ∀ l, l ≠ .mark ']' → turn.step l = Turn.enter frames l

theorem expects_value (frames : List Frame) : (Turn.value frames).Expects frames := fun _ _ => rfl

theorem expects_firstItem (frames : List Frame) :
    (Turn.firstItem frames).Expects (.array [] :: frames) := by
  intro l other
  cases l with
  | mark c =>
    have differs : c ≠ ']' := fun same => other (congrArg Lexeme.mark same)
    unfold Turn.step
    split <;> simp_all
  | string s => rfl
  | atom d => rfl

theorem stops_newLine (depth : Nat) (text : List Char) : Stops (Json.newLine depth ++ text) :=
  stops_cons (by decide) _

theorem stops_renderItems (depth : Nat) (items : List Json) :
    Stops (Json.renderItems depth items) := by
  cases items with
  | nil => exact stops_nil
  | cons item more => exact stops_cons (by decide) _

theorem stops_renderMembers (depth : Nat) (members : List (String × Json)) :
    Stops (Json.renderMembers depth members) := by
  cases members with
  | nil => exact stops_nil
  | cons member more => exact stops_cons (by decide) _

mutual

/-- A document is read as its value where a value is expected. -/
theorem reads_render {turn : Turn} {frames : List Frame} (h : turn.Expects frames) (depth : Nat)
    (j : Json) : Reads (j.render depth) turn (.complete frames j.datum) := by
  cases j with
  | string s => exact reads_stringText (h _ (by simp))
  | integer n => exact reads_integer (h _ (by simp))
  | array items =>
    have opens := h (.mark '[') (by simp)
    cases items with
    | nil => exact .mark rfl opens (.mark rfl rfl .nil)
    | cons item more =>
      have first := reads_render (expects_firstItem frames) (depth + 1) item
      have others := reads_renderItems frames [item.datum] (depth + 1) more
      have closes : Reads [']'] (.afterItem frames (item.datum :: Json.datums more))
          (.complete frames (.array (item.datum :: Json.datums more))) :=
        .mark rfl rfl .nil
      -- a comma or a line feed comes behind each value, so that a number ends there
      have behind := others.append (stops_newLine depth [']']) (closes.newLine depth)
      have stops := (stops_renderItems (depth + 1) more).append (stops_newLine depth [']'])
      simp only [Json.render, List.cons_append, List.append_assoc]
      exact .mark rfl opens ((first.append stops behind).newLine (depth + 1))
  | object members =>
    have opens := h (.mark '\x7b') (by simp)
    cases members with
    | nil => exact .mark rfl opens (.mark rfl rfl .nil)
    | cons member more =>
      have first := reads_renderMember (.firstName frames) (depth + 1) member rfl
      have others := reads_renderMembers frames [(member.1, member.2.datum)] (depth + 1) more
      have closes : Reads ['\x7d']
          (.afterMember frames ((member.1, member.2.datum) :: Json.memberDatums more))
          (.complete frames (.object ((member.1, member.2.datum) :: Json.memberDatums more))) :=
        .mark rfl rfl .nil
      have behind := others.append (stops_newLine depth ['\x7d']) (closes.newLine depth)
      have stops := (stops_renderMembers (depth + 1) more).append (stops_newLine depth ['\x7d'])
      simp only [Json.render, List.cons_append, List.append_assoc]
      exact .mark rfl opens ((first.append stops behind).newLine (depth + 1))

/-- Items behind the first are read as their values where an array can end. -/
theorem reads_renderItems (frames : List Frame) (front : List Datum) (depth : Nat)
    (items : List Json) :
    Reads (Json.renderItems depth items) (.afterItem frames front)
      (.afterItem frames (front ++ Json.datums items)) := by
  cases items with
  | nil =>
    rw [Json.datums, List.append_nil]
    exact .nil
  | cons item more =>
    have value := reads_render (expects_value (.array front :: frames)) depth item
    have others := reads_renderItems frames (front ++ [item.datum]) depth more
    rw [List.append_assoc] at others
    simp only [Json.renderItems, List.cons_append, List.append_assoc]
    exact .mark rfl rfl ((value.append (stops_renderItems depth more) others).newLine depth)

/-- A member is read as its name and its value where a name is expected. -/
theorem reads_renderMember (turn : Turn) {frames : List Frame} {front : List (String × Datum)}
    (depth : Nat) (member : String × Json)
    (h : turn.step (.string member.1) = some (.colon frames front member.1)) :
    Reads (Json.renderMember depth member) turn
      (.afterMember frames (front ++ [(member.1, member.2.datum)])) := by
  cases member with
  | mk name value =>
    have named := reads_stringText h
    have valued := reads_render (expects_value (.object front name :: frames)) depth value
    rw [Json.renderMember, List.append_assoc]
    exact named.append (stops_cons (by decide) _) (.mark rfl rfl (.blank (by decide) valued))

/-- Members behind the first are read as their names and values where an object can end. -/
theorem reads_renderMembers (frames : List Frame) (front : List (String × Datum)) (depth : Nat)
    (members : List (String × Json)) :
    Reads (Json.renderMembers depth members) (.afterMember frames front)
      (.afterMember frames (front ++ Json.memberDatums members)) := by
  cases members with
  | nil =>
    rw [Json.memberDatums, List.append_nil]
    exact .nil
  | cons member more =>
    have first := reads_renderMember (.nextName frames front) depth member rfl
    have others := reads_renderMembers frames (front ++ [(member.1, member.2.datum)]) depth more
    rw [List.append_assoc] at others
    simp only [Json.renderMembers, List.cons_append, List.append_assoc]
    exact .mark rfl rfl ((first.append (stops_renderMembers depth more) others).newLine depth)

end

/-- A document is read back as the value that was written. -/
theorem read?_render (j : Json) : read? (j.render 0) = some j.datum := by
  have document := reads_render (expects_value []) 0 j [] stops_nil
  rw [List.append_nil] at document
  rw [read?, document]
  rfl

-- what comes close to a document: needless zeros and commas, bare control characters, half a pair
example : ∀ text ∈ ["", "01", "1.", "[1,]", "[1 2]", "[] []", "\"\t\"", "\"\\ud83d\"", "nul"],
    (read? text.toList).isNone = true := by
  decide +kernel

/-! ## Listings -/

/-- The value that stands for a place. -/
def ofPosition (p : Position) : Datum :=
  .object [("line", .integer p.line), ("column", .integer p.column), ("offset", .integer p.offset)]

/-- The value that stands for a token, with or without its places. -/
def ofToken (positions : Bool) (t : Token) : Datum :=
  .object ([("type", .string t.kind.name), ("literal", .string t.literal)] ++
    if positions then [("start", ofPosition t.span.start), ("end", ofPosition t.span.stop)] else [])

theorem datum_tokenJson (positions : Bool) (t : Token) :
    (tokenJson positions t).datum = ofToken positions t := by
  cases positions <;> rfl

theorem ofPosition_inj {p q : Position} (h : ofPosition p = ofPosition q) : p = q := by
  simp only [ofPosition, object.injEq, List.cons.injEq, Prod.mk.injEq, integer.injEq, true_and,
    and_true] at h
  obtain ⟨line, column, offset⟩ := h
  exact Position.ext line column offset

/-- With its places, nothing of a token is lost. -/
theorem ofToken_inj {t u : Token} (h : ofToken true t = ofToken true u) : t = u := by
  simp only [ofToken, if_true, List.cons_append, List.nil_append, object.injEq, List.cons.injEq,
    Prod.mk.injEq, string.injEq, true_and, and_true] at h
  obtain ⟨kind, literal, start, stop⟩ := h
  exact Token.ext (TokenKind.name_inj kind) literal
    (Span.ext (ofPosition_inj start) (ofPosition_inj stop))

end Datum

namespace Render.Json

/-! ## ASCII -/

/-- Whether a character is an ASCII character. -/
def isAscii (c : Char) : Bool := c.toNat < 0x80

theorem isAscii_of_mem_integer {n : Int} {c : Char} (mem : c ∈ Text.integer n) :
    isAscii c = true := by
  have bounds := Text.toNat_of_mem_integer mem
  exact decide_eq_true (by omega)

theorem isAscii_hexDigits (width n : Nat) : (Text.hexDigits width n).all isAscii = true := by
  have digit : ∀ d < 16, isAscii (Text.hexDigit d) = true := by decide
  refine List.all_eq_true.2 fun c mem => ?_
  obtain ⟨d, small, rfl⟩ := Text.of_mem_hexDigits mem
  exact digit d small

theorem isAscii_escapedChar (c : Char) : (escapedChar c).all isAscii = true := by
  unfold escapedChar
  split_ifs with quote slash feed carriage tab backspace form plain
  any_goals rfl
  · have below : isAscii c = true := decide_eq_true (by omega)
    simp [below]
  · rw [List.all_flatMap]
    refine List.all_eq_true.2 fun u _ => ?_
    simp only [List.all_cons, isAscii_hexDigits]
    rfl

theorem isAscii_stringText (s : String) : (stringText s).all isAscii = true := by
  have inside : (s.toList.flatMap escapedChar).all isAscii = true := by
    rw [List.all_flatMap]
    exact List.all_eq_true.2 fun c _ => isAscii_escapedChar c
  simp only [stringText, List.cons_append, List.all_cons, List.all_append, inside]
  rfl

theorem isAscii_newLine (depth : Nat) : (newLine depth).all isAscii = true := by
  have blank : isAscii ' ' = true := rfl
  simp [newLine, blank]
  rfl

mutual

/-- A document is in ASCII. -/
theorem isAscii_render (depth : Nat) (j : Json) : (j.render depth).all isAscii = true := by
  cases j with
  | string s => exact isAscii_stringText s
  | integer n => exact List.all_eq_true.2 fun _ => isAscii_of_mem_integer
  | array items =>
    cases items with
    | nil => rfl
    | cons item more =>
      simp only [render, List.cons_append, List.all_cons, List.all_append, isAscii_newLine,
        isAscii_render, isAscii_renderItems]
      rfl
  | object members =>
    cases members with
    | nil => rfl
    | cons member more =>
      simp only [render, List.cons_append, List.all_cons, List.all_append, isAscii_newLine,
        isAscii_renderMember, isAscii_renderMembers]
      rfl

theorem isAscii_renderItems (depth : Nat) (items : List Json) :
    (renderItems depth items).all isAscii = true := by
  cases items with
  | nil => rfl
  | cons item more =>
    simp only [renderItems, List.cons_append, List.all_cons, List.all_append, isAscii_newLine,
      isAscii_render, isAscii_renderItems]
    rfl

theorem isAscii_renderMember (depth : Nat) (member : String × Json) :
    (renderMember depth member).all isAscii = true := by
  cases member with
  | mk name value =>
    simp only [renderMember, List.all_append, isAscii_stringText, isAscii_render]
    rfl

theorem isAscii_renderMembers (depth : Nat) (members : List (String × Json)) :
    (renderMembers depth members).all isAscii = true := by
  cases members with
  | nil => rfl
  | cons member more =>
    simp only [renderMembers, List.cons_append, List.all_cons, List.all_append, isAscii_newLine,
      isAscii_renderMember, isAscii_renderMembers]
    rfl

end

theorem itemIntegers_eq_flatMap (items : List Json) :
    itemIntegers items = items.flatMap integers := by
  induction items with
  | nil => rfl
  | cons item more ih => rw [itemIntegers, ih, List.flatMap_cons]

/-- An array ends with its bracket. -/
theorem getLast?_render_array (depth : Nat) (items : List Json) :
    ((array items).render depth).getLast? = some ']' := by
  cases items with
  | nil => rfl
  | cons item more => rw [render, List.getLast?_append, List.getLast?_singleton, Option.some_or]

end Render.Json

namespace Render

/-- A JSON listing is the document of its tokens with a line feed behind it. -/
theorem toList_listing_json (positions : Bool) (ts : List Token) :
    (listing .json positions ts).toList =
      (Json.array (ts.map (tokenJson positions))).render 0 ++ ['\n'] := by
  rw [listing, jsonListing, Json.text, String.toList_append, String.toList_ofList]
  rfl

theorem integers_tokenJson (positions : Bool) (t : Token) :
    (tokenJson positions t).integers = if positions then t.span.numbers else [] := by
  cases positions <;> rfl

/-- The integers in a JSON listing are the numbers of the places, if these are shown. -/
theorem mem_listingIntegers_json {positions : Bool} {ts : List Token} {n : Int} :
    n ∈ listingIntegers .json positions ts ↔
      positions = true ∧ ∃ t ∈ ts, n ∈ t.span.numbers := by
  rw [listingIntegers, Json.integers, Json.itemIntegers_eq_flatMap, List.flatMap_map,
    List.mem_flatMap]
  simp only [integers_tokenJson]
  cases positions <;> simp

theorem datum_listing (positions : Bool) (ts : List Token) :
    (Json.array (ts.map (tokenJson positions))).datum =
      .array (ts.map (Datum.ofToken positions)) := by
  have token : Json.datum ∘ tokenJson positions = Datum.ofToken positions :=
    funext (Datum.datum_tokenJson positions)
  rw [Json.datum, Json.datums_eq_map, List.map_map, token]

theorem lt_of_mem_listing_json {positions : Bool} {ts : List Token} {c : Char}
    (mem : c ∈ (listing .json positions ts).toList) : c.toNat < 0x80 := by
  have document := Json.isAscii_render 0 (.array (ts.map (tokenJson positions)))
  rw [toList_listing_json] at mem
  rcases List.mem_append.1 mem with inside | feed
  · exact of_decide_eq_true (List.all_eq_true.1 document c inside)
  · rw [List.mem_singleton.1 feed]
    decide

/-- The tokens can be had back from a listing with places. -/
theorem listing_json_inj {ts us : List Token} (h : listing .json true ts = listing .json true us) :
    ts = us := by
  have texts := congrArg String.toList h
  rw [toList_listing_json, toList_listing_json] at texts
  have values := congrArg Datum.read? (List.append_cancel_right texts)
  rw [Datum.read?_render, Datum.read?_render, datum_listing, datum_listing] at values
  have tokens := Datum.array.inj (Option.some.inj values)
  exact List.map_injective_iff.2 (fun _ _ => Datum.ofToken_inj) tokens

end Render

/-- A JSON listing is written unless its places are asked for and a number of a place is too long.
What is written is a document in ASCII and a line feed behind it. The document is an array, and a
reader of JSON finds an object for each token in it, in their order: with the kind and the
characters of the token alone, or with the line, column and offset of both its places as well. No
two lists of tokens have the same listing with places. -/
theorem listing_json (positions : Bool) (ts : List Token) :
    ((∃ text, Render.writeListing .json positions ts = .ok text) ↔
        (positions = true → ∀ t ∈ ts, ∀ n ∈ t.span.numbers, Text.Short n)) ∧
      ∀ text, Render.writeListing .json positions ts = .ok text →
        (∀ c ∈ text.toList, c.toNat < 0x80) ∧
        (∃ document : List Char, text.toList = document ++ ['\n'] ∧
          document.getLast? = some ']' ∧
          Datum.read? document = some (.array (ts.map (Datum.ofToken positions)))) ∧
        (positions = true → ∀ us, Render.writeListing .json true us = .ok text → ts = us) := by
  refine ⟨?fits, fun text written => ?_⟩
  case fits =>
    simp only [Render.writeListing, Text.written_eq_ok_iff, exists_and_left, exists_eq',
      and_true, Render.mem_listingIntegers_json]
    exact ⟨fun short shown t mem n number => short n ⟨shown, t, mem, number⟩,
      fun short n ⟨shown, t, mem, number⟩ => short shown t mem n number⟩
  · obtain ⟨-, rfl⟩ := Text.written_eq_ok_iff.1 written
    refine ⟨fun c => Render.lt_of_mem_listing_json,
      ⟨_, Render.toList_listing_json positions ts, Render.Json.getLast?_render_array 0 _, ?read⟩,
      fun shown us written => ?inj⟩
    case read => rw [Datum.read?_render, Render.datum_listing]
    case inj =>
      subst shown
      exact Render.listing_json_inj (Text.written_eq_ok_iff.1 written).2.symm

/-- A negative line, and characters that take a pair of units or a backslash. -/
theorem listing_json_of_pair :
    let ts : List Token := [⟨.illegal, "😀\"", ⟨⟨-12, 1, 0⟩, ⟨-12, 3, 2⟩⟩⟩]
    (∀ t ∈ ts, ∀ n ∈ t.span.numbers, Text.Short n) ∧
      ∃ text, Render.writeListing .json true ts = .ok text ∧
        (∀ c ∈ text.toList, c.toNat < 0x80) ∧
        (∃ document : List Char, text.toList = document ++ ['\n'] ∧
          Datum.read? document = some (.array (ts.map (Datum.ofToken true)))) ∧
        ∀ us, Render.writeListing .json true us = .ok text → ts = us := by
  intro ts
  have short : ∀ t ∈ ts, ∀ n ∈ t.span.numbers, Text.Short n := by decide +kernel
  obtain ⟨fits, each⟩ := listing_json true ts
  obtain ⟨text, written⟩ := fits.2 fun _ => short
  obtain ⟨ascii, ⟨document, split, -, read⟩, inj⟩ := each text written
  exact ⟨short, text, written, ascii, ⟨document, split, read⟩, inj rfl⟩

/-- The least line that is too long: there is no listing with it. -/
theorem no_listing_json_of_long_line :
    Render.writeListing .json true [.endAt ⟨10 ^ Text.mostDigits, 1, 0⟩] = .error .tooLong := by
  have part : (10 ^ Text.mostDigits : Int) ∈
      Render.listingIntegers .json true [.endAt ⟨10 ^ Text.mostDigits, 1, 0⟩] :=
    Render.mem_listingIntegers_json.2 ⟨rfl, _, List.mem_singleton_self _, List.mem_cons_self⟩
  exact Text.written_of_long (fun short => Text.not_short_ten_pow (short _ part)) _

end MonkeyScan
