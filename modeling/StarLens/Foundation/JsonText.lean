import StarLens.Foundation.JsonNumber

/-! # JSON texts

The text one program writes of a value is what another one reads it from. -/

namespace StarLens.Foundation

inductive JsonValue
  | null
  | bool (value : Bool)
  | number (value : Int)
  | decimal (mantissa exponent : Int)
  | string (text : String)
  | array (items : List JsonValue)
  | object (members : List (String × JsonValue))

/-- The member of a name; the last one counts. -/
def JsonValue.member (name : String) : JsonValue → Option JsonValue
  | .object members => (members.reverse.find? fun member => member.1 = name).map Prod.snd
  | _ => none

def JsonValue.string? : JsonValue → Option String
  | .string text => some text
  | _ => none

def JsonValue.items? : JsonValue → Option (List JsonValue)
  | .array items => some items
  | _ => none

def JsonValue.number? : JsonValue → Option Int
  | .number value => some value
  | _ => none

def JsonValue.bool? : JsonValue → Option Bool
  | .bool value => some value
  | _ => none

def JsonValue.ofNumber : Int × Option Int → JsonValue
  | (value, none) => .number value
  | (mantissa, some exponent) => .decimal mantissa exponent

namespace JsonText

/-! ## Strings -/

def codeUnit (value : Nat) : List Char :=
  [value / 4096 % 16, value / 256 % 16, value / 16 % 16, value % 16].map Nat.digitChar

def hexValue (char : Char) : Option Nat :=
  if '0' ≤ char ∧ char ≤ '9' then some (char.toNat - 48)
  else if 'a' ≤ char ∧ char ≤ 'f' then some (char.toNat - 87)
  else if 'A' ≤ char ∧ char ≤ 'F' then some (char.toNat - 55)
  else none

def letterEscapes : List (Char × Char) :=
  [('"', '"'), ('\\', '\\'), ('/', '/'), ('b', '\x08'), ('f', '\x0c'), ('n', '\n'), ('r', '\r'),
    ('t', '\t')]

/-- A character in a string. What could end a script or a line of one is written
as a code unit as well. -/
def escape (char : Char) : List Char :=
  if char = '"' ∨ char = '\\' then ['\\', char]
  else if char = '\x08' then ['\\', 'b']
  else if char = '\x0c' then ['\\', 'f']
  else if char = '\n' then ['\\', 'n']
  else if char = '\r' then ['\\', 'r']
  else if char = '\t' then ['\\', 't']
  else if char < ' ' ∨ char ∈ ['<', '>', '&', '\u2028', '\u2029'] then
    '\\' :: 'u' :: codeUnit char.toNat
  else [char]

def readUnit : List Char → Option (Nat × List Char)
  | first :: second :: third :: fourth :: rest => do
      let first ← hexValue first
      let second ← hexValue second
      let third ← hexValue third
      let fourth ← hexValue fourth
      return (((first * 16 + second) * 16 + third) * 16 + fourth, rest)
  | _ => none

def isHighSurrogate (unit : Nat) : Bool := 0xD800 ≤ unit && unit < 0xDC00
def isLowSurrogate (unit : Nat) : Bool := 0xDC00 ≤ unit && unit < 0xE000

/-- A code unit, with the second one of a pair of surrogates. A surrogate alone is
replaced. -/
def readUnits (text : List Char) : Option (Char × List Char) := do
  let (unit, rest) ← readUnit text
  if isHighSurrogate unit then
    match rest with
    | '\\' :: 'u' :: behind =>
        match readUnit behind with
        | some (low, behind) =>
            if isLowSurrogate low then
              return (Char.ofNat (0x10000 + (unit - 0xD800) * 0x400 + (low - 0xDC00)), behind)
            else return ('\ufffd', rest)
        | none => return ('\ufffd', rest)
    | _ => return ('\ufffd', rest)
  else if isLowSurrogate unit then return ('\ufffd', rest)
  else return (Char.ofNat unit, rest)

def readChar : List Char → Option (Char × List Char)
  | [] => none
  | char :: rest =>
      if char = '\\' then
        match rest with
        | [] => none
        | kind :: rest =>
            if kind = 'u' then readUnits rest
            else (letterEscapes.lookup kind).map fun char => (char, rest)
      else if char < ' ' then none
      else some (char, rest)

def readString : (fuel : Nat) → List Char → Option (List Char × List Char)
  | 0, _ => none
  | fuel + 1, text =>
      if text.head? = some '"' then some ([], text.tail)
      else do
        let (char, rest) ← readChar text
        let (chars, rest) ← readString fuel rest
        return (char :: chars, rest)

theorem hexValue_digitChar (value : Nat) (digit : value < 16) :
    hexValue (Nat.digitChar value) = some value := by
  revert value
  decide

theorem readUnit_codeUnit (value : Nat) (small : value < 0x10000) (rest : List Char) :
    readUnit (codeUnit value ++ rest) = some (value, rest) := by
  have digit (number : Nat) : number % 16 < 16 := Nat.mod_lt _ (by decide)
  simp only [codeUnit, List.map_cons, List.map_nil, List.cons_append, List.nil_append, readUnit,
    hexValue_digitChar _ (digit _), bind, Option.bind_some, pure]
  congr 2
  omega

theorem readUnits_codeUnit (char : Char) (small : char.toNat < 0xD800) (rest : List Char) :
    readUnits (codeUnit char.toNat ++ rest) = some (char, rest) := by
  have high : isHighSurrogate char.toNat = false := by
    simp only [isHighSurrogate, Bool.and_eq_false_iff, decide_eq_false_iff_not]
    omega
  have low : isLowSurrogate char.toNat = false := by
    simp only [isLowSurrogate, Bool.and_eq_false_iff, decide_eq_false_iff_not]
    omega
  rw [readUnits, readUnit_codeUnit _ (by omega)]
  simp only [bind, Option.bind_some, high, low, Bool.false_eq_true, if_false, pure,
    Char.ofNat_toNat]

/-- What is escaped is read back, with nothing lost or taken of what follows. -/
theorem readChar_escape (char : Char) (rest : List Char) :
    readChar (escape char ++ rest) = some (char, rest) := by
  rw [escape]
  split
  case isTrue special => rcases special with rfl | rfl <;> rfl
  case isFalse plain =>
      rw [not_or] at plain
      split
      · subst char
        rfl
      split
      · subst char
        rfl
      split
      · subst char
        rfl
      split
      · subst char
        rfl
      split
      · subst char
        rfl
      split
      case isTrue hidden =>
          have small : char.toNat < 0xD800 := by
            rcases hidden with control | listed
            · have below : char.toNat < 32 := control
              omega
            · simp only [List.mem_cons, List.not_mem_nil, or_false] at listed
              rcases listed with rfl | rfl | rfl | rfl | rfl <;> decide
          exact readUnits_codeUnit char small rest
      case isFalse shown =>
          rw [not_or] at shown
          simp only [List.singleton_append, readChar, if_neg plain.2, if_neg shown.1]

theorem head?_escape (char : Char) (rest : List Char) :
    (escape char ++ rest).head? ≠ some '"' := by
  rw [escape]
  split
  · simp
  case isFalse plain =>
      rw [not_or] at plain
      repeat' split
      all_goals simp [plain.1]

theorem readString_escape (chars rest : List Char) (fuel : Nat) (enough : chars.length < fuel) :
    readString fuel (chars.flatMap escape ++ '"' :: rest) = some (chars, rest) := by
  induction chars generalizing fuel with
  | nil =>
      cases fuel with
      | zero => cases enough
      | succ fuel => rfl
  | cons char chars induction =>
      cases fuel with
      | zero => cases enough
      | succ fuel =>
          rw [List.flatMap_cons, List.append_assoc, readString, if_neg (head?_escape char _),
            readChar_escape]
          simp only [bind, Option.bind_some, induction fuel (Nat.lt_of_succ_lt_succ enough), pure]

/-! ## Values -/

def skipSpace (text : List Char) : List Char :=
  text.dropWhile (· ∈ [' ', '\t', '\n', '\r'])

def expect (word text : List Char) : Option (List Char) :=
  if word.isPrefixOf text then some (text.drop word.length) else none

def writeString (text : String) : List Char := '"' :: text.toList.flatMap escape ++ ['"']

mutual

def write : JsonValue → List Char
  | .null => ['n', 'u', 'l', 'l']
  | .bool true => ['t', 'r', 'u', 'e']
  | .bool false => ['f', 'a', 'l', 's', 'e']
  | .number value => writeNumber value none
  | .decimal mantissa exponent => writeNumber mantissa (some exponent)
  | .string text => writeString text
  | .array [] => ['[', ']']
  | .array (item :: items) => '[' :: write item ++ writeItems items
  | .object [] => ['\x7b', '\x7d']
  | .object ((name, value) :: members) =>
      '\x7b' :: writeString name ++ ':' :: write value ++ writeMembers members

def writeItems : List JsonValue → List Char
  | [] => [']']
  | item :: items => ',' :: write item ++ writeItems items

def writeMembers : List (String × JsonValue) → List Char
  | [] => ['\x7d']
  | (name, value) :: members =>
      ',' :: writeString name ++ ':' :: write value ++ writeMembers members

end

def writeLine (member : String × JsonValue) : List Char :=
  '\n' :: ' ' :: ' ' :: (writeString member.1 ++ ':' :: ' ' :: write member.2)

def writeLinesBehind : List (String × JsonValue) → List Char
  | [] => ['\n', '\x7d']
  | member :: members => ',' :: (writeLine member ++ writeLinesBehind members)

def writeLines : List (String × JsonValue) → List Char
  | [] => ['\x7b', '\x7d']
  | member :: members => '\x7b' :: (writeLine member ++ writeLinesBehind members)

def readText (text : List Char) : Option (String × List Char) :=
  (readString (text.length + 1) text).map fun (chars, rest) => (String.ofList chars, rest)

mutual

/-- A value, with as much fuel as the text has characters at least. -/
def readValue : (fuel : Nat) → List Char → Option (JsonValue × List Char)
  | 0, _ => none
  | fuel + 1, text =>
      match skipSpace text with
      | [] => none
      | char :: rest =>
          if char = '"' then (readText rest).map fun (text, rest) => (.string text, rest)
          else if char = '[' then
            if (skipSpace rest).head? = some ']' then some (.array [], (skipSpace rest).tail)
            else do
              let (item, rest) ← readValue fuel rest
              let (items, rest) ← readItems fuel rest
              return (.array (item :: items), rest)
          else if char = '\x7b' then
            if (skipSpace rest).head? = some '\x7d' then some (.object [], (skipSpace rest).tail)
            else do
              let (member, rest) ← readMember fuel rest
              let (members, rest) ← readMembers fuel rest
              return (.object (member :: members), rest)
          else if char = 'n' then (expect ['u', 'l', 'l'] rest).map fun rest => (.null, rest)
          else if char = 't' then
            (expect ['r', 'u', 'e'] rest).map fun rest => (.bool true, rest)
          else if char = 'f' then
            (expect ['a', 'l', 's', 'e'] rest).map fun rest => (.bool false, rest)
          else (readNumber (char :: rest)).map fun (number, rest) => (.ofNumber number, rest)

def readItems : (fuel : Nat) → List Char → Option (List JsonValue × List Char)
  | 0, _ => none
  | fuel + 1, text =>
      match skipSpace text with
      | [] => none
      | char :: rest =>
          if char = ']' then some ([], rest)
          else if char = ',' then do
            let (item, rest) ← readValue fuel rest
            let (items, rest) ← readItems fuel rest
            return (item :: items, rest)
          else none

def readMembers : (fuel : Nat) → List Char → Option (List (String × JsonValue) × List Char)
  | 0, _ => none
  | fuel + 1, text =>
      match skipSpace text with
      | [] => none
      | char :: rest =>
          if char = '\x7d' then some ([], rest)
          else if char = ',' then do
            let (member, rest) ← readMember fuel rest
            let (members, rest) ← readMembers fuel rest
            return (member :: members, rest)
          else none

def readMember : (fuel : Nat) → List Char → Option ((String × JsonValue) × List Char)
  | 0, _ => none
  | fuel + 1, text =>
      match skipSpace text with
      | [] => none
      | char :: rest =>
          if char = '"' then do
            let (name, rest) ← readText rest
            if (skipSpace rest).head? = some ':' then
              let (value, rest) ← readValue fuel (skipSpace rest).tail
              return ((name, value), rest)
            else none
          else none

end

def read (text : List Char) : Option JsonValue := do
  let (value, rest) ← readValue text.length text
  if skipSpace rest = [] then return value else none

/-! ## The round trip -/

theorem length_le_flatMap_escape (chars : List Char) :
    chars.length ≤ (chars.flatMap escape).length := by
  have nonempty (char : Char) : 1 ≤ (escape char).length := by
    rw [escape]
    repeat' split
    all_goals simp
  induction chars with
  | nil => exact Nat.le_refl _
  | cons char chars induction =>
      have one := nonempty char
      rw [List.flatMap_cons, List.length_append, List.length_cons]
      omega

theorem readText_writeString (text : String) (rest : List Char) :
    readText (text.toList.flatMap escape ++ '"' :: rest) = some (text, rest) := by
  have enough : text.toList.length <
      (text.toList.flatMap escape ++ '"' :: rest).length + 1 := by
    have longer := length_le_flatMap_escape text.toList
    rw [List.length_append]
    omega
  simp only [readText, readString_escape _ _ _ enough, Option.map_some, String.ofList_toList]

theorem skipSpace_cons (char : Char) (other : char ∉ [' ', '\t', '\n', '\r'])
    (text : List Char) : skipSpace (char :: text) = char :: text := by
  rw [skipSpace, List.dropWhile_cons_of_neg (by simpa using other)]

def StartsValue (text : List Char) : Prop :=
  ∃ char rest, text = char :: rest ∧ char ∉ [' ', '\t', '\n', '\r'] ∧ char ≠ ']' ∧ char ≠ '\x7d'

theorem not_digit_of_eq {char other : Char} (number : char.isDigit ∨ char = '-')
    (apart : other.isDigit = false) (apart' : other ≠ '-') : char ≠ other := by
  intro same
  subst same
  rcases number with digit | minus
  · rw [apart] at digit
    cases digit
  · exact apart' minus

theorem startsValue_number (mantissa : Int) (exponent : Option Int) :
    StartsValue (writeNumber mantissa exponent) := by
  rcases writeNumber_starts mantissa exponent with ⟨char, rest, written, number⟩
  refine ⟨char, rest, written, ?_, not_digit_of_eq number (by decide) (by decide),
    not_digit_of_eq number (by decide) (by decide)⟩
  simp only [List.mem_cons, List.not_mem_nil, or_false, not_or]
  exact ⟨not_digit_of_eq number (by decide) (by decide),
    not_digit_of_eq number (by decide) (by decide),
    not_digit_of_eq number (by decide) (by decide),
    not_digit_of_eq number (by decide) (by decide)⟩

theorem startsValue_write (value : JsonValue) : StartsValue (write value) := by
  cases value with
  | null => exact ⟨_, _, rfl, by decide, by decide, by decide⟩
  | bool value => cases value <;> exact ⟨_, _, rfl, by decide, by decide, by decide⟩
  | number value => exact startsValue_number value none
  | decimal mantissa exponent => exact startsValue_number mantissa (some exponent)
  | string text => exact ⟨_, _, rfl, by decide, by decide, by decide⟩
  | array items => cases items <;> exact ⟨_, _, rfl, by decide, by decide, by decide⟩
  | object members => cases members <;> exact ⟨_, _, rfl, by decide, by decide, by decide⟩

theorem StartsValue.skipSpace {text : List Char} (starts : StartsValue text) (rest : List Char) :
    skipSpace (text ++ rest) = text ++ rest := by
  rcases starts with ⟨char, tail, rfl, space, -⟩
  exact skipSpace_cons char space _

theorem StartsValue.head? {text : List Char} (starts : StartsValue text) (rest : List Char) :
    (text ++ rest).head? ≠ some ']' ∧ (text ++ rest).head? ≠ some '\x7d' := by
  rcases starts with ⟨char, tail, rfl, -, bracket, brace⟩
  simp [bracket, brace]

theorem endsNumber_items (items : List JsonValue) (rest : List Char) :
    EndsNumber (writeItems items ++ rest) := by
  cases items <;>
    (intro char first
     cases first
     decide)

theorem endsNumber_members (members : List (String × JsonValue)) (rest : List Char) :
    EndsNumber (writeMembers members ++ rest) := by
  cases members <;>
    (intro char first
     cases first
     decide)

theorem readMember_write (name : String) {value : JsonValue} {fuel : Nat} {rest : List Char}
    (read : readValue fuel (write value ++ rest) = some (value, rest)) :
    readMember (fuel + 1) (writeString name ++ ':' :: write value ++ rest) =
      some ((name, value), rest) := by
  have text := readText_writeString name (':' :: (write value ++ rest))
  have colon : skipSpace (':' :: (write value ++ rest)) = ':' :: (write value ++ rest) :=
    skipSpace_cons ':' (by decide) _
  simp only [writeString, List.cons_append, List.append_assoc, List.nil_append, readMember,
    skipSpace_cons '"' (by decide), if_true, text, bind, Option.bind_some, colon,
    List.head?_cons, List.tail_cons, read, pure]

theorem readValue_number (mantissa : Int) (exponent : Option Int) (fuel : Nat) {rest : List Char}
    (ends : EndsNumber rest) :
    readValue (fuel + 1) (writeNumber mantissa exponent ++ rest) =
      some (.ofNumber (mantissa, exponent), rest) := by
  have starts := (startsValue_number mantissa exponent).skipSpace rest
  have read := readNumber_write mantissa exponent ends
  rcases writeNumber_starts mantissa exponent with ⟨char, tail, written, number⟩
  have apart {other : Char} := @not_digit_of_eq char other number
  rw [written] at starts
  rw [written] at read ⊢
  rw [readValue, starts, List.cons_append]
  dsimp only
  rw [if_neg (apart (by decide) (by decide)), if_neg (apart (by decide) (by decide)),
    if_neg (apart (by decide) (by decide)), if_neg (apart (by decide) (by decide)),
    if_neg (apart (by decide) (by decide)), if_neg (apart (by decide) (by decide)),
    ← List.cons_append, read]
  rfl

theorem readValue_string (text : String) (fuel : Nat) (rest : List Char) :
    readValue (fuel + 1) (writeString text ++ rest) = some (.string text, rest) := by
  have read := readText_writeString text rest
  simp only [writeString, List.cons_append, List.append_assoc, List.nil_append, readValue,
    skipSpace_cons '"' (by decide), if_true, read, Option.map_some]

theorem readValue_array {item : JsonValue} {items : List JsonValue} {fuel : Nat}
    {rest : List Char}
    (first : readValue fuel (write item ++ (writeItems items ++ rest)) =
      some (item, writeItems items ++ rest))
    (others : readItems fuel (writeItems items ++ rest) = some (items, rest)) :
    readValue (fuel + 1) (write (.array (item :: items)) ++ rest) =
      some (.array (item :: items), rest) := by
  have starts := startsValue_write item
  have inside := starts.skipSpace (writeItems items ++ rest)
  have bracket := (starts.head? (writeItems items ++ rest)).1
  simp only [write, List.cons_append, List.append_assoc, readValue,
    skipSpace_cons '[' (by decide), Char.reduceEq, if_false, if_true, inside, if_neg bracket, first,
    others, bind, Option.bind_some, pure]

theorem readValue_object {name : String} {value : JsonValue} {members : List (String × JsonValue)}
    {fuel : Nat} {rest : List Char}
    (first : readMember fuel (writeString name ++ ':' :: write value ++
      (writeMembers members ++ rest)) = some ((name, value), writeMembers members ++ rest))
    (others : readMembers fuel (writeMembers members ++ rest) = some (members, rest)) :
    readValue (fuel + 1) (write (.object ((name, value) :: members)) ++ rest) =
      some (.object ((name, value) :: members), rest) := by
  have quote : (writeString name ++ ':' :: write value ++ (writeMembers members ++ rest)).head? ≠
      some '\x7d' := by simp [writeString]
  have inside : skipSpace (writeString name ++ ':' :: write value ++
      (writeMembers members ++ rest)) =
        writeString name ++ ':' :: write value ++ (writeMembers members ++ rest) := rfl
  simp only [List.append_assoc, List.cons_append] at quote inside first
  simp only [write, List.cons_append, List.append_assoc, readValue,
    skipSpace_cons '\x7b' (by decide), Char.reduceEq, if_false, if_true, inside, if_neg quote,
    first, others, bind, Option.bind_some, pure]

theorem readMembers_cons {name : String} {value : JsonValue} {members : List (String × JsonValue)}
    {fuel : Nat} {rest : List Char}
    (first : readMember fuel (writeString name ++ ':' :: write value ++
      (writeMembers members ++ rest)) = some ((name, value), writeMembers members ++ rest))
    (others : readMembers fuel (writeMembers members ++ rest) = some (members, rest)) :
    readMembers (fuel + 1) (writeMembers ((name, value) :: members) ++ rest) =
      some ((name, value) :: members, rest) := by
  simp only [List.append_assoc, List.cons_append] at first
  simp only [writeMembers, List.cons_append, List.append_assoc, readMembers,
    skipSpace_cons ',' (by decide), Char.reduceEq, if_false, if_true, first, others, bind,
    Option.bind_some, pure]

mutual

/-- A value is read back from what is written of it. -/
theorem readValue_write (value : JsonValue) (fuel : Nat) (rest : List Char)
    (enough : (write value).length ≤ fuel) (ends : EndsNumber rest) :
    readValue fuel (write value ++ rest) = some (value, rest) := by
  cases fuel with
  | zero =>
      rcases startsValue_write value with ⟨char, tail, written, -⟩
      rw [written] at enough
      cases enough
  | succ fuel =>
      cases value with
      | null => rfl
      | bool value => cases value <;> rfl
      | number value => exact readValue_number value none fuel ends
      | decimal mantissa exponent => exact readValue_number mantissa (some exponent) fuel ends
      | string text => exact readValue_string text fuel rest
      | array items =>
          cases items with
          | nil => rfl
          | cons item items =>
              rw [write, List.length_append, List.length_cons] at enough
              apply readValue_array
              · exact readValue_write item fuel _ (by omega) (endsNumber_items items rest)
              · exact readItems_write items fuel rest (by omega)
      | object members =>
          cases members with
          | nil => rfl
          | cons member members =>
              rcases member with ⟨name, value⟩
              simp only [write, writeString, List.length_append, List.length_cons] at enough
              cases fuel with
              | zero => omega
              | succ fuel =>
                  apply readValue_object
                  · apply readMember_write
                    exact readValue_write value fuel _ (by omega) (endsNumber_members members rest)
                  · exact readMembers_write members (fuel + 1) rest (by omega)

theorem readItems_write (items : List JsonValue) (fuel : Nat) (rest : List Char)
    (enough : (writeItems items).length ≤ fuel) :
    readItems fuel (writeItems items ++ rest) = some (items, rest) := by
  cases fuel with
  | zero => cases items <;> cases enough
  | succ fuel =>
      cases items with
      | nil => rfl
      | cons item items =>
          rw [writeItems, List.length_append, List.length_cons] at enough
          have first := readValue_write item fuel (writeItems items ++ rest) (by omega)
            (endsNumber_items items rest)
          have others := readItems_write items fuel rest (by omega)
          simp only [writeItems, List.cons_append, List.append_assoc, readItems,
            skipSpace_cons ',' (by decide), Char.reduceEq, if_false, if_true, first, others, bind,
            Option.bind_some, pure]

theorem readMembers_write (members : List (String × JsonValue)) (fuel : Nat) (rest : List Char)
    (enough : (writeMembers members).length ≤ fuel) :
    readMembers fuel (writeMembers members ++ rest) = some (members, rest) := by
  cases fuel with
  | zero =>
      cases members with
      | nil => cases enough
      | cons member members => cases enough
  | succ fuel =>
      cases members with
      | nil => rfl
      | cons member members =>
          rcases member with ⟨name, value⟩
          simp only [writeMembers, writeString, List.length_append, List.length_cons] at enough
          cases fuel with
          | zero => omega
          | succ fuel =>
              apply readMembers_cons
              · apply readMember_write
                exact readValue_write value fuel _ (by omega) (endsNumber_members members rest)
              · exact readMembers_write members (fuel + 1) rest (by omega)

end

theorem read_write (value : JsonValue) : read (write value) = some value := by
  have whole := readValue_write value (write value).length [] (Nat.le_refl _) nofun
  rw [List.append_nil] at whole
  rw [read, whole]
  rfl

/-! ## Lines -/

theorem endsNumber_lines (members : List (String × JsonValue)) (rest : List Char) :
    EndsNumber (writeLinesBehind members ++ rest) := by
  cases members <;>
    (intro char first
     cases first
     decide)

theorem length_writeLine (name : String) (value : JsonValue) :
    (write value).length + 7 ≤ (writeLine (name, value)).length := by
  simp only [writeLine, writeString, List.length_cons, List.length_append, List.length_nil]
  omega

theorem readMember_line (name : String) (value : JsonValue) (fuel : Nat) {rest : List Char}
    (enough : (write value).length ≤ fuel) (ends : EndsNumber rest) :
    readMember (fuel + 2) (writeLine (name, value) ++ rest) = some ((name, value), rest) := by
  have text := readText_writeString name (':' :: ' ' :: (write value ++ rest))
  have colon : skipSpace (':' :: ' ' :: (write value ++ rest)) =
      ':' :: ' ' :: (write value ++ rest) := skipSpace_cons ':' (by decide) _
  have indented (behind : List Char) :
      skipSpace ('\n' :: ' ' :: ' ' :: '"' :: behind) = '"' :: behind := rfl
  have spaced : readValue (fuel + 1) (' ' :: (write value ++ rest)) =
      readValue (fuel + 1) (write value ++ rest) := by
    have skipped : skipSpace (' ' :: (write value ++ rest)) = skipSpace (write value ++ rest) := rfl
    rw [readValue, readValue, skipped]
  have read := readValue_write value (fuel + 1) rest (by omega) ends
  simp only [writeLine, writeString, List.cons_append, List.append_assoc, List.nil_append,
    readMember, indented, if_true, text, bind, Option.bind_some, colon, List.head?_cons,
    List.tail_cons, spaced, read, pure]

theorem readMembers_lines (members : List (String × JsonValue)) (fuel : Nat) (rest : List Char)
    (enough : (writeLinesBehind members).length ≤ fuel) :
    readMembers fuel (writeLinesBehind members ++ rest) = some (members, rest) := by
  induction members generalizing fuel with
  | nil =>
      cases fuel with
      | zero => cases enough
      | succ fuel => rfl
  | cons member members induction =>
      rcases member with ⟨name, value⟩
      have longer := length_writeLine name value
      rw [writeLinesBehind, List.length_cons, List.length_append] at enough
      cases fuel with
      | zero => omega
      | succ fuel =>
          have first := readMember_line name value (fuel - 2) (by omega)
            (endsNumber_lines members rest)
          rw [show fuel - 2 + 2 = fuel by omega] at first
          have others := induction fuel (by omega)
          simp only [writeLinesBehind, List.cons_append, List.append_assoc, readMembers,
            skipSpace_cons ',' (by decide), Char.reduceEq, if_false, if_true, first, others, bind,
            Option.bind_some, pure]

theorem read_writeLines (members : List (String × JsonValue)) {rest : List Char}
    (space : skipSpace rest = []) : read (writeLines members ++ rest) = some (.object members) := by
  cases members with
  | nil =>
      rw [read]
      simp only [writeLines, List.cons_append, List.nil_append, List.length_cons, readValue,
        skipSpace_cons '\x7b' (by decide), skipSpace_cons '\x7d' (by decide), Char.reduceEq,
        if_false, if_true, List.head?_cons, List.tail_cons, bind, Option.bind_some, space, pure]
  | cons member members =>
      rcases member with ⟨name, value⟩
      have longer := length_writeLine name value
      have size : ∃ fuel, (writeLines ((name, value) :: members) ++ rest).length = fuel + 3 ∧
          (write value).length ≤ fuel ∧ (writeLinesBehind members).length ≤ fuel + 2 := by
        simp only [writeLines, List.cons_append, List.length_cons, List.length_append]
        refine ⟨(writeLine (name, value)).length + (writeLinesBehind members).length +
          rest.length - 2, ?_, ?_, ?_⟩ <;> omega
      rcases size with ⟨fuel, size, inside, behind⟩
      have first := readMember_line name value fuel inside (endsNumber_lines members rest)
      have others := readMembers_lines members (fuel + 2) rest behind
      have quote : (skipSpace (writeLine (name, value) ++
          (writeLinesBehind members ++ rest))).head? ≠ some '\x7d' := by
        simp [writeLine, writeString, skipSpace]
      rw [read, size]
      simp only [writeLines, List.cons_append, List.append_assoc, readValue,
        skipSpace_cons '\x7b' (by decide), Char.reduceEq, if_false, if_true, if_neg quote, first,
        others, bind, Option.bind_some, pure, space]

end JsonText

end StarLens.Foundation
