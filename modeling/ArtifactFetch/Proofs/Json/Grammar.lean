import ArtifactFetch.Json.Ignored
import ArtifactFetch.Json.Written

/-! # The grammar of JSON texts

Which texts are JSON, said without a reader. A string can be spelled in many ways (`Spells`): a
character may stand for itself, behind a backslash as a letter, or as its one or two code units in
hexadecimal. The value of a member that nobody asks for may be any JSON text (`IsValue`); in its
strings the code units need not make up characters, and its numbers have no bounds. An object is
written with blanks wherever tokens meet (`ObjectText`). `Holds` says which data an object holds in
its members of known names, in the order of the text. -/

namespace ArtifactFetch.Json

/-- Nothing but blanks. -/
def AllBlank (text : List Char) : Prop := ∀ c ∈ text, isBlank c = true

instance (text : List Char) : Decidable (AllBlank text) :=
  List.decidableBAll (isBlank · = true) text

/-! ### Strings -/

/-- A digit of the value `n` in hexadecimal, in lower or in upper case. -/
def HexDigit (n : Nat) (c : Char) : Prop := n < 16 ∧ (c = n.digitChar ∨ c = n.digitChar.toUpper)

/-- Four hexadecimal digits. -/
inductive Hex4 : Nat → List Char → Prop
  | mk {k l m n : Nat} {p q r s : Char} : HexDigit k p → HexDigit l q → HexDigit m r →
    HexDigit n s → Hex4 (((k * 16 + l) * 16 + m) * 16 + n) [p, q, r, s]

/-- A letter behind a backslash, and the character that both stand for. -/
inductive Escape : Char → Char → Prop
  | quote : Escape '"' '"'
  | backslash : Escape '\\' '\\'
  | slash : Escape '/' '/'
  | backspace : Escape 'b' '\x08'
  | formFeed : Escape 'f' '\x0c'
  | lineFeed : Escape 'n' '\n'
  | carriageReturn : Escape 'r' '\r'
  | tab : Escape 't' '\t'

/-- A character that can stand for itself in a string. -/
def Bare (c : Char) : Prop := c ≠ '"' ∧ c ≠ '\\' ∧ 0x20 ≤ c.toNat

instance (c : Char) : Decidable (Bare c) := inferInstanceAs (Decidable (_ ∧ _ ∧ _))

/-- How a character can stand in a string. -/
inductive SpellsChar (c : Char) : List Char → Prop
  | bare : Bare c → SpellsChar c [c]
  | letter {e : Char} : Escape e c → SpellsChar c ['\\', e]
  | unit {t : List Char} : Hex4 c.toNat t → SpellsChar c ('\\' :: 'u' :: t)
  /-- A character beyond the first `2 ^ 16` has a lead and a trail surrogate. -/
  | pair {lead trail : Nat} {t u : List Char} : 0xd800 ≤ lead → lead < 0xdc00 → 0xdc00 ≤ trail →
    trail < 0xe000 → c.toNat = (lead - 0xd800) * 0x400 + (trail - 0xdc00) + 0x10000 →
    Hex4 lead t → Hex4 trail u → SpellsChar c ('\\' :: 'u' :: (t ++ '\\' :: 'u' :: u))

/-- What can stand between the quotes for a string. -/
inductive Spells : List Char → List Char → Prop
  | nil : Spells [] []
  | cons {c : Char} {s t u : List Char} : SpellsChar c t → Spells s u → Spells (c :: s) (t ++ u)

/-- What can stand between the quotes if nobody asks for the characters. -/
inductive StringBody : List Char → Prop
  | nil : StringBody []
  | bare {c : Char} {t : List Char} : Bare c → StringBody t → StringBody (c :: t)
  | letter {e c : Char} {t : List Char} : Escape e c → StringBody t → StringBody ('\\' :: e :: t)
  | unit {n : Nat} {t u : List Char} : Hex4 n t → StringBody u →
    StringBody ('\\' :: 'u' :: (t ++ u))

/-! ### Numbers -/

/-- At least one digit and nothing else. -/
def Digits (text : List Char) : Prop := text ≠ [] ∧ ∀ c ∈ text, c.isDigit = true

instance (text : List Char) : Decidable (Digits text) :=
  have := List.decidableBAll (fun c : Char => c.isDigit = true) text
  inferInstanceAs (Decidable (_ ∧ _))

/-- The digits before the point, which begin with a zero only if that is all. -/
inductive IsInteger : List Char → Prop
  | zero : IsInteger ['0']
  | digits {c : Char} {cs : List Char} : c ≠ '0' → Digits (c :: cs) → IsInteger (c :: cs)

inductive IsFraction : List Char → Prop
  | none : IsFraction []
  | digits {t : List Char} : Digits t → IsFraction ('.' :: t)

inductive IsExponent : List Char → Prop
  | none : IsExponent []
  | digits {e : Char} {sign t : List Char} : e = 'e' ∨ e = 'E' → sign ∈ [[], ['+'], ['-']] →
    Digits t → IsExponent (e :: (sign ++ t))

inductive IsNumber : List Char → Prop
  | mk {minus i f e : List Char} : minus ∈ [[], ['-']] → IsInteger i → IsFraction f →
    IsExponent e → IsNumber (minus ++ (i ++ (f ++ e)))

/-! ### Values -/

/-- A value that opens nothing. -/
inductive IsScalar : List Char → Prop
  | null : IsScalar ['n', 'u', 'l', 'l']
  | true : IsScalar ['t', 'r', 'u', 'e']
  | false : IsScalar ['f', 'a', 'l', 's', 'e']
  | number {t : List Char} : IsNumber t → IsScalar t
  | string {t : List Char} : StringBody t → IsScalar ('"' :: (t ++ ['"']))

/-- The character that opens it. -/
def Frame.opening : Frame → Char
  | .list => '['
  | .object => '{'

/-- What stands in front of a value inside: nothing in a list, the key and a colon in an object. -/
inductive Labels : Frame → List Char → Prop
  | list : Labels .list []
  | object {t a b : List Char} : StringBody t → AllBlank a → AllBlank b →
    Labels .object ('"' :: (t ++ '"' :: (a ++ ':' :: b)))

/-- A value, or what stands between what opens and what closes one. -/
inductive Kind where
  | value
  | elements (f : Frame)

/-- The texts of a kind. -/
inductive IsText : Kind → List Char → Prop
  | scalar {t : List Char} : IsScalar t → IsText .value t
  | empty {f : Frame} {a : List Char} : AllBlank a → IsText .value (f.opening :: (a ++ [f.close]))
  | filled {f : Frame} {a t : List Char} : AllBlank a → IsText (.elements f) t →
    IsText .value (f.opening :: (a ++ (t ++ [f.close])))
  | last {f : Frame} {k v a : List Char} : Labels f k → IsText .value v → AllBlank a →
    IsText (.elements f) (k ++ (v ++ a))
  | more {f : Frame} {k v a b t : List Char} : Labels f k → IsText .value v → AllBlank a →
    AllBlank b → IsText (.elements f) t → IsText (.elements f) (k ++ (v ++ (a ++ ',' :: (b ++ t))))

/-- The text of a JSON value, whatever is nested in it. -/
abbrev IsValue : List Char → Prop := IsText .value

/-! ### Objects -/

/-- A member with the blanks around it. Its name has to be a string, its value may be any text. -/
inductive MemberText : Member → List Char → Prop
  | mk {name : String} {key value a b c d : List Char} : Spells name.toList key → AllBlank a →
    AllBlank b → AllBlank c → AllBlank d →
    MemberText (name, value) (a ++ '"' :: (key ++ '"' :: (b ++ ':' :: (c ++ (value ++ d)))))

/-- Members with commas between them. -/
inductive MembersText : List Member → List Char → Prop
  | last {m : Member} {t : List Char} : MemberText m t → MembersText [m] t
  | more {m : Member} {ms : List Member} {t u : List Char} : MemberText m t → MembersText ms u →
    MembersText (m :: ms) (t ++ ',' :: u)

/-- An object with the blanks around it. -/
inductive ObjectText : List Member → List Char → Prop
  | empty {a b c : List Char} : AllBlank a → AllBlank b → AllBlank c →
    ObjectText [] (a ++ '{' :: (b ++ '}' :: c))
  | members {ms : List Member} {a t b : List Char} : AllBlank a → MembersText ms t → AllBlank b →
    ObjectText ms (a ++ '{' :: (t ++ '}' :: b))

/-! ### Data -/

/-- What the value of a known member can be. -/
inductive Datum where
  | null
  | flag (b : Bool)
  | count (n : UInt64)
  | text (s : String)
  deriving DecidableEq, Repr

/-- What may be missing is `null` then. -/
def Datum.optional {α : Type} (datum : α → Datum) : Option α → Datum
  | none => .null
  | some a => datum a

/-- How a datum can be written. Only strings leave a choice. -/
inductive Denotes : Datum → List Char → Prop
  | null : Denotes .null ['n', 'u', 'l', 'l']
  | true : Denotes (.flag Bool.true) ['t', 'r', 'u', 'e']
  | false : Denotes (.flag Bool.false) ['f', 'a', 'l', 's', 'e']
  | count (n : UInt64) : Denotes (.count n) (Nat.toDigits 10 n.toNat)
  | text {s : String} {t : List Char} : Spells s.toList t → Denotes (.text s) ('"' :: (t ++ ['"']))

/-- A name and the datum given for it. -/
abbrev Given := String × Datum

/-- The members give the data, in the same order, and apart from that have other names than the
known ones. -/
inductive Gives (known : List String) : List Member → List Given → Prop
  | nil : Gives known [] []
  | known {name : String} {value : List Char} {datum : Datum} {ms : List Member}
    {data : List Given} : name ∈ known → Denotes datum value → Gives known ms data →
    Gives known ((name, value) :: ms) ((name, datum) :: data)
  | unknown {name : String} {value : List Char} {ms : List Member} {data : List Given} :
    name ∉ known → IsValue value → Gives known ms data → Gives known ((name, value) :: ms) data

/-- The text is an object that holds the data in its members of known names, in this order. -/
def Holds (known : List String) (data : List Given) (text : String) : Prop :=
  ∃ ms, ObjectText ms text.toList ∧ Gives known ms data

theorem ObjectText.holds {ms : List Member} {chars : List Char} {known : List String}
    {data : List Given} {text : String} (h : ObjectText ms chars) (gives : Gives known ms data)
    (spelled : text.toList = chars) : Holds known data text :=
  ⟨ms, spelled ▸ h, gives⟩

end ArtifactFetch.Json
