import MmWaveTracker.CString

/-! `cjson.c`, the JSON texts that the two ends of an iperf test exchange: printing a tree of items,
formatted or not, and parsing a text. The functions of the C library that print and read a double
are parameters. -/
namespace MmWaveTracker

namespace CJson

open CString

/-- The bytes of a C string, without its terminating zero. -/
abbrev Text : Type := {bytes : List UInt8 // ∀ b ∈ bytes, b ≠ 0}

/-- What is left of an array of bytes when it is taken as a C string. -/
def Text.of (bytes : List UInt8) : Text :=
  ⟨str bytes, fun _ hb =>
    of_decide_eq_true (List.mem_takeWhile_imp (p := fun b => decide (b ≠ 0)) hb)⟩

/-- A `cJSON` item by its `type`; an object's children carry their names. -/
inductive Item (D : Type) where
  | null
  | false
  | true
  | number (valuedouble : D)
  | string (valuestring : Text)
  | array (child : List (Item D))
  | object (child : List (Text × Item D))

/-- `localeconv`, `sprintf` and `strtod`, as far as they are used on numbers, and the conversions of
a `double`. -/
structure Numbers (D : Type) where
  /-- `localeconv()->decimal_point[0]`. -/
  decimalPoint : UInt8
  /-- `d*0 == 0`. -/
  finite : D → Bool
  /-- What `"%1.15g"` writes, and what `"%1.17g"` does. -/
  g15 : D → List UInt8
  g17 : D → List UInt8
  /-- The number at the start of a string and where it ends, if there is one. -/
  strtod : List UInt8 → Option (D × ℕ)
  /-- `(double) n`, and the whole part of a `double`. -/
  ofInt : ℤ → D
  trunc : D → ℤ
  sub : D → D → D

variable {D : Type} [DecidableEq D] (c : Numbers D)

section print

/-- `sscanf(number_buffer, "%lg", &test)` finds `d` again. -/
def recovers (numberBuffer : List UInt8) (d : D) : Bool :=
  decide ((c.strtod numberBuffer).map Prod.fst = some d)

/-- The buffer holds 26 bytes, the terminating zero included. -/
def printNumber (d : D) : Option (List UInt8) :=
  let numberBuffer :=
    if c.finite d then if recovers c (c.g15 d) d then c.g15 d else c.g17 d
    else ascii "null"
  if 25 < numberBuffer.length then none
  else some (numberBuffer.map fun b => if b = c.decimalPoint then 46 else b)

/-- A digit of `"%04x"`. -/
def hexDigit (n : ℕ) : UInt8 := UInt8.ofNat (if n < 10 then 48+n else 87+n)

def escape (b : UInt8) : List UInt8 :=
  if b = 92 then [92, 92] else if b = 34 then [92, 34]
  else if 31 < b then [b]
  else if b = 8 then ascii "\\b" else if b = 12 then ascii "\\f" else if b = 10 then ascii "\\n"
  else if b = 13 then ascii "\\r" else if b = 9 then ascii "\\t"
  else ascii "\\u00" ++ [hexDigit (b.toNat/16), hexDigit (b.toNat%16)]

def printStringPtr (input : Text) : List UInt8 := 34 :: (input.val.flatMap escape ++ [34])

mutual

/-- `print_value` at a nesting depth, with or without white space. -/
def printValue (format : Bool) (depth : ℕ) : Item D → Option (List UInt8)
  | .null => some (ascii "null")
  | .false => some (ascii "false")
  | .true => some (ascii "true")
  | .number valuedouble => printNumber c valuedouble
  | .string valuestring => some (printStringPtr valuestring)
  | .array child => (printElements format (depth+1) child).map fun text => 91 :: (text ++ [93])
  | .object child => (printMembers format (depth+1) child).map fun text =>
      123 :: ((if format then [10] else []) ++ text ++
        ((if format then List.replicate depth 9 else []) ++ [125]))

/-- The loop of `print_array`. -/
def printElements (format : Bool) (depth : ℕ) : List (Item D) → Option (List UInt8)
  | [] => some []
  | item :: next => do
    let text ← printValue format depth item
    let texts ← printElements format depth next
    some (text ++ ((if next.isEmpty then [] else if format then [44, 32] else [44]) ++ texts))

/-- The loop of `print_object`. -/
def printMembers (format : Bool) (depth : ℕ) : List (Text × Item D) → Option (List UInt8)
  | [] => some []
  | (string, item) :: next => do
    let text ← printValue format depth item
    let texts ← printMembers format depth next
    some ((if format then List.replicate depth 9 else []) ++ (printStringPtr string ++
      ((if format then [58, 9] else [58]) ++ (text ++ ((if next.isEmpty then [] else [44]) ++
        ((if format then [10] else []) ++ texts))))))

end

/-- `cJSON_Print` and `cJSON_PrintUnformatted`. -/
def print (format : Bool) (item : Item D) : Option (List UInt8) := printValue c format 0 item

end print

section parse

/-- The zero at the end of the text is not passed. -/
def skipWhitespace (input : List UInt8) : List UInt8 :=
  match input.dropWhile (· ≤ 32) with
  | [] => input.getLast?.toList
  | rest => rest

def isNumberByte (b : UInt8) : Bool := isdigit b || b = 43 || b = 45 || b = 101 || b = 69 || b = 46

/-- At most 63 bytes are handed to `strtod`. -/
def parseNumber (input : List UInt8) : Option (D × List UInt8) :=
  let numberCString := ((input.take 63).takeWhile isNumberByte).map fun b =>
    if b = 46 then c.decimalPoint else b
  (c.strtod numberCString).bind fun (number, afterEnd) =>
    if afterEnd = 0 then none else some (number, input.drop afterEnd)

/-- The value of a hexadecimal digit. -/
def hexValue (b : UInt8) : Option ℕ :=
  if 48 ≤ b && b ≤ 57 then some (b.toNat-48)
  else if 65 ≤ b && b ≤ 70 then some (10+b.toNat-65)
  else if 97 ≤ b && b ≤ 102 then some (10+b.toNat-97)
  else none

/-- Zero also stands for four bytes that are not hexadecimal digits. -/
def parseHex4 (input : List UInt8) : ℕ :=
  match (input.take 4).mapM hexValue with
  | some digits => digits.foldl (fun h digit => 16*h+digit) 0
  | none => 0

/-- The UTF-8 bytes of a code point. -/
def utf8 (codepoint : ℕ) : List UInt8 :=
  let tail (n : ℕ) : UInt8 := UInt8.ofNat (0x80 + n%64)
  if codepoint < 0x80 then [UInt8.ofNat codepoint]
  else if codepoint < 0x800 then [UInt8.ofNat (0xC0 + codepoint/64), tail codepoint]
  else if codepoint < 0x10000 then [UInt8.ofNat (0xE0 + codepoint/4096), tail (codepoint/64),
    tail codepoint]
  else [UInt8.ofNat (0xF0 + codepoint/262144), tail (codepoint/4096), tail (codepoint/64),
    tail codepoint]

/-- The bytes that a literal stands for, and its length: two literals are read where the first is
the high half of a surrogate pair. -/
def utf16LiteralToUtf8 (input : List UInt8) : Option (List UInt8 × ℕ) :=
  if input.length < 6 then none
  else
    let firstCode := parseHex4 (input.drop 2)
    if 0xDC00 ≤ firstCode ∧ firstCode ≤ 0xDFFF then none
    else if 0xD800 ≤ firstCode ∧ firstCode ≤ 0xDBFF then
      let second := input.drop 6
      let secondCode := parseHex4 (second.drop 2)
      if second.length < 6 ∨ second.take 2 ≠ [92, 117] ∨ secondCode < 0xDC00 ∨
        0xDFFF < secondCode then none
      else some (utf8 (0x10000 + ((firstCode%1024)*1024 + secondCode%1024)), 12)
    else some (utf8 firstCode, 6)

/-- What is between the quotes, and what follows the closing one; the byte behind a backslash is
passed. -/
def stringEnd : Bool → List UInt8 → Option (List UInt8 × List UInt8)
  | _, [] => none
  | escaped, b :: rest =>
    if !escaped && b = 34 then some ([], rest)
    else (stringEnd (!escaped && b = 92) rest).map fun (text, rest) => (b :: text, rest)

/-- The bytes that one escape sequence stands for, and its length. A literal may have taken the
first half of a pair of backslashes; then the second half is the last byte, and the closing quote
follows it. -/
def unescape (input : List UInt8) : Option (List UInt8 × ℕ) :=
  let e := input.tail.headD 34
  if e = 98 then some ([8], 2) else if e = 102 then some ([12], 2)
    else if e = 110 then some ([10], 2)
  else if e = 114 then some ([13], 2) else if e = 116 then some ([9], 2)
  else if e = 34 ∨ e = 92 ∨ e = 47 then some ([e], 2)
  else if e = 117 then utf16LiteralToUtf8 input
  else none

/-- The loop through the string literal, for at most `fuel` rounds: each takes a byte at least. -/
def unescapeLoop : ℕ → List UInt8 → Option (List UInt8)
  | _, [] => some []
  | 0, _ :: _ => none
  | fuel+1, b :: rest =>
    if b ≠ 92 then (unescapeLoop fuel rest).map (b :: ·)
    else (unescape (b :: rest)).bind fun (bytes, sequenceLength) =>
      (unescapeLoop fuel ((b :: rest).drop sequenceLength)).map (bytes ++ ·)

def parseString : List UInt8 → Option (Text × List UInt8)
  | [] => none
  | b :: input =>
    if b ≠ 34 then none
    else (stringEnd false input).bind fun (text, rest) =>
      (unescapeLoop text.length text).map fun output => (Text.of output, rest)

/-- The loop of `parse_array`, from a place where a value is due, for at most `fuel` rounds: each
takes a comma at least. -/
def parseElements (parseValue : List UInt8 → Option (Item D × List UInt8)) :
    ℕ → List UInt8 → Option (List (Item D) × List UInt8)
  | 0, _ => none
  | fuel+1, input =>
    (parseValue (skipWhitespace input)).bind fun (item, rest) =>
      match skipWhitespace rest with
      | b :: rest =>
        if b = 44 then (parseElements parseValue fuel rest).map fun (next, rest) =>
          (item :: next, rest)
        else if b = 93 then some ([item], rest)
        else none
      | [] => none

/-- What follows the opening bracket of an array. -/
def parseArray (parseValue : List UInt8 → Option (Item D × List UInt8)) (input : List UInt8) :
    Option (Item D × List UInt8) :=
  match skipWhitespace input with
  | [] => none
  | b :: rest =>
    if b = 93 then some (.array [], rest)
    else (parseElements parseValue (b :: rest).length (b :: rest)).map fun (child, rest) =>
      (.array child, rest)

/-- The loop of `parse_object`. -/
def parseMembers (parseValue : List UInt8 → Option (Item D × List UInt8)) :
    ℕ → List UInt8 → Option (List (Text × Item D) × List UInt8)
  | 0, _ => none
  | fuel+1, input =>
    (parseString (skipWhitespace input)).bind fun (string, rest) =>
      match skipWhitespace rest with
      | [] => none
      | colon :: rest =>
        if colon ≠ 58 then none
        else (parseValue (skipWhitespace rest)).bind fun (item, rest) =>
          match skipWhitespace rest with
          | b :: rest =>
            if b = 44 then
              (parseMembers parseValue fuel rest).map fun (next, rest) =>
                ((string, item) :: next, rest)
            else if b = 125 then some ([(string, item)], rest)
            else none
          | [] => none

/-- What follows the opening brace of an object. -/
def parseObject (parseValue : List UInt8 → Option (Item D × List UInt8)) (input : List UInt8) :
    Option (Item D × List UInt8) :=
  match skipWhitespace input with
  | [] => none
  | b :: rest =>
    if b = 125 then some (.object [], rest)
    else (parseMembers parseValue (b :: rest).length (b :: rest)).map fun (child, rest) =>
      (.object child, rest)

/-- The value at the start of the input and what follows it; `levels` is how much deeper arrays and
objects may be nested, `CJSON_NESTING_LIMIT-depth`. -/
def parseValue : ℕ → List UInt8 → Option (Item D × List UInt8)
  | levels, input =>
    if input.take 4 = ascii "null" then some (.null, input.drop 4)
    else if input.take 5 = ascii "false" then some (.false, input.drop 5)
    else if input.take 4 = ascii "true" then some (.true, input.drop 4)
    else match input with
      | [] => none
      | b :: rest =>
        if b = 34 then (parseString (b :: rest)).map fun (string, rest) => (.string string, rest)
        else if b = 45 || isdigit b then (parseNumber c (b :: rest)).map fun (number, rest) =>
          (.number number, rest)
        else if b = 91 then
          match levels with
          | 0 => none
          | levels+1 => parseArray (parseValue levels) rest
        else if b = 123 then
          match levels with
          | 0 => none
          | levels+1 => parseObject (parseValue levels) rest
        else none

def cjsonNestingLimit : ℕ := 1000

/-- `cJSON_Parse`: what follows the value is not looked at. -/
def parse (value : List UInt8) : Option (Item D) :=
  (parseValue c cjsonNestingLimit (skipWhitespace (str value ++ [0]))).map Prod.fst

end parse

section access

/-- `cJSON_CreateNumber` of an integer. -/
def createNumber (n : ℤ) : Item D := .number (c.ofInt n)

/-- A number that is no `int64_t` is replaced by the nearest one; other items have no value, `true`
has one. -/
def valueint : Item D → ℤ
  | .number valuedouble => clampLong (c.trunc valuedouble)
  | .true => 1
  | _ => 0

def valuedouble : Item D → D
  | .number valuedouble => valuedouble
  | _ => c.ofInt 0

def valuestring : Item D → Option Text
  | .string valuestring => some valuestring
  | _ => none

def tolower (b : UInt8) : UInt8 := if 65 ≤ b && b ≤ 90 then b+32 else b

/-- `case_insensitive_strcmp` finds no difference. -/
def sameName (name string : Text) : Bool := decide (name.val.map tolower = string.val.map tolower)

/-- `cJSON_GetObjectItem`: the first child of the name. -/
def getObjectItem (object : Item D) (name : Text) : Option (Item D) :=
  match object with
  | .object child => (child.find? fun current => sameName name current.1).map Prod.snd
  | _ => none

end access

end CJson

end MmWaveTracker
