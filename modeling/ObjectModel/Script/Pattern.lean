import ObjectModel.Script.Items
import ObjectModel.Script.Numbers
import ObjectModel.Script.Texts

/-!
# Patterns

A text can be a pattern in which every percent sign starts a directive: a key in parentheses,
flags, a width, a precision, and the letter that says how a value is written. Values come from a
tuple, one after another, or are one value; under a key they come from a table. All values have to
be used, unless a table stands for them.
-/

namespace ObjectModel.Script

/-- Where the values of a pattern come from. -/
inductive Supply where
  | row (items : Array Value) (i : Nat)
  | single (v : Value) (used : Bool)

namespace Supply

/-- Whether a value is left over. -/
def isOpen : Supply → Bool
  | .row items i => i < items.size
  | .single _ used => !used

def take : Supply → Prog (Value × Supply)
  | .row items i =>
    match items[i]? with
    | some v => return (v, .row items (i + 1))
    | none => wrongType
  | .single v false => return (v, .single v true)
  | .single _ true => wrongType

end Supply

structure Directive where
  leftAlign : Bool
  plus : Bool
  blank : Bool
  alternate : Bool
  zero : Bool
  width : Option Nat
  precision : Option Nat

namespace Directive

def plain : Directive := ⟨false, false, false, false, false, none, none⟩

/-- Read flags, in any order. -/
def readFlags (d : Directive) : List Char → Directive × List Char
  | '-' :: cs => readFlags { d with leftAlign := true } cs
  | '+' :: cs => readFlags { d with plus := true } cs
  | ' ' :: cs => readFlags { d with blank := true } cs
  | '#' :: cs => readFlags { d with alternate := true } cs
  | '0' :: cs => readFlags { d with zero := true } cs
  | cs => (d, cs)

/-- Read a number that must not exceed a limit. -/
def readNumber (limit : Nat) (n : Nat) : List Char → Prog (Nat × List Char)
  | c :: cs =>
    if c.isDigit then
      let digit := c.toNat - '0'.toNat
      if n > (limit - digit) / 10 then plainFault .valueError
      else readNumber limit (n * 10 + digit) cs
    else return (n, c :: cs)
  | [] => return (n, [])

/-- A width or precision that is taken from the values. -/
def takeNumber (least greatest : Int) (supply : Supply) : Prog (Int × Supply) := do
  let (v, supply) ← supply.take
  match Machine.plainInt? v with
  | some n => if n < least ∨ greatest < n then plainFault .overflowError else return (n, supply)
  | none => wrongType

def readWidth (d : Directive) (supply : Supply) :
    List Char → Prog (Directive × Supply × List Char)
  | '*' :: cs => do
    let (n, supply) ← takeNumber (-(powerOfTwo 63)) (powerOfTwo 63 - 1) supply
    return ({ d with width := n.natAbs, leftAlign := d.leftAlign || n < 0 }, supply, cs)
  | c :: cs => do
    if c.isDigit then
      let (n, cs) ← readNumber (powerOfTwo 63 - 1) 0 (c :: cs)
      return ({ d with width := n }, supply, cs)
    else return (d, supply, c :: cs)
  | [] => return (d, supply, [])

def readPrecision (d : Directive) (supply : Supply) :
    List Char → Prog (Directive × Supply × List Char)
  | '.' :: '*' :: cs => do
    let (n, supply) ← takeNumber (-(powerOfTwo 31)) (powerOfTwo 31 - 1) supply
    return ({ d with precision := n.toNat }, supply, cs)
  | '.' :: cs => do
    let (n, cs) ← readNumber (powerOfTwo 31 - 1) 0 cs
    return ({ d with precision := n }, supply, cs)
  | cs => return (d, supply, cs)

/-- A letter that says how large a number is, and means nothing. -/
def skipSize : List Char → List Char
  | 'h' :: cs | 'l' :: cs | 'L' :: cs => cs
  | cs => cs

/-- Put a text into its place. A number may have a sign and a mark for its base in front. -/
def place (d : Directive) (letter : Char) (isNumber : Bool) (cs : List Char) : List Char :=
  let cs := match d.precision with
    | some n => if ['s', 'r', 'a'].contains letter then cs.take n else cs
    | none => cs
  let (sign, cs) :=
    if isNumber then
      match cs with
      | '-' :: rest => (['-'], rest)
      | '+' :: rest => (['+'], rest)
      | cs => (if d.plus then ['+'] else if d.blank then [' '] else [], cs)
    else ([], cs)
  let hasMark := d.alternate && ['x', 'X', 'o'].contains letter
  let (mark, cs) := if hasMark then (cs.take 2, cs.drop 2) else ([], cs)
  let missing := d.width.getD 0 - (sign.length + mark.length + cs.length)
  let fill := if isNumber && d.zero then '0' else ' '
  if d.leftAlign then sign ++ mark ++ cs ++ List.replicate missing ' '
  else if fill = '0' then sign ++ mark ++ List.replicate missing '0' ++ cs
  else List.replicate missing ' ' ++ sign ++ mark ++ cs

/-- As `place`, if there is memory for the result. -/
def placed (d : Directive) (letter : Char) (isNumber : Bool) (cs : List Char) :
    Prog (List Char) :=
  if Text.maxLength < d.width.getD 0 then plainFault .memoryError
  else return d.place letter isNumber cs

end Directive

/-- The text of an integer in the notation of a letter, with at least as many digits as the
precision says. -/
def integerText (d : Directive) (letter : Char) (n : Int) : Prog (List Char) := do
  let base := if letter = 'o' then 8 else if letter = 'x' ∨ letter = 'X' then 16 else 10
  if powerOfTwo 31 - 4 < d.precision.getD 0 then plainFault .overflowError
  else if Text.maxLength < d.precision.getD 0 then plainFault .memoryError
  else if base = 10 && Text.isTooLong n then plainFault .valueError
  else
    let digits := Text.inBase base n.natAbs
    let digits := List.replicate (d.precision.getD 0 - digits.length) '0' ++ digits
    let mark := if !d.alternate || base = 10 then []
      else if base = 8 then ['0', 'o'] else ['0', 'x']
    let cs := (if n < 0 then ['-'] else []) ++ mark ++ digits
    return if letter = 'X' then cs.map Char.toUpper else cs

/-- Write characters beyond ASCII by their numbers. -/
def escapeBeyondAscii (s : String) : String :=
  String.join (s.toList.map (fun c =>
    if c.toNat < 128 then String.singleton c
    else
      let digits := Text.inBase 16 c.toNat
      let padded (n : Nat) := String.ofList (List.replicate (n - digits.length) '0' ++ digits)
      if c.toNat < 256 then "\\x" ++ padded 2
      else if c.toNat < 65536 then "\\u" ++ padded 4
      else "\\U" ++ padded 8))

namespace Machine

variable (m : Machine)

/-- The integer that a directive for integers is given. -/
def directiveInt (letter : Char) (v : Value) : Prog Int := do
  match plainInt? v with
  | some n => return n
  | none =>
    let isNumber ← match v with
      | .float _ _ => pure true
      | v => seeing (fun h =>
          ["__index__", "__int__", "__float__"].any (fun n => (h.hookOf? v n).isSome))
    let convert := if ['o', 'x', 'X'].contains letter then m.index v else m.toInt v
    if isNumber then withoutMessage .typeError convert else wrongType

/-- The character that a directive for characters is given. -/
def directiveChar (v : Value) : Prog Char := do
  match v with
  | .text s =>
    match s.toList with
    | [c] => return c
    | _ => wrongType
  | v => do
    let n ← withoutMessage .typeError (m.index v)
    if 0 ≤ n ∧ n < 0x110000 then return Char.ofNat n.toNat else plainFault .overflowError

def floatLayout (d : Directive) (letter : Char) : Text.FloatLayout :=
  let places := d.precision.getD 6
  let style := match letter.toLower with
    | 'e' => Text.FloatStyle.scientific places
    | 'f' => .fixed places
    | _ => .general (max places 1)
  ⟨style, d.alternate, false, letter.isUpper⟩

/-- Write one value as a directive says. -/
def directiveText (d : Directive) (letter : Char) (v : Value) : Prog (List Char) := do
  match letter with
  | 's' => d.placed letter false (← m.str v).toList
  | 'r' => d.placed letter false (← m.repr v).toList
  | 'a' => d.placed letter false (escapeBeyondAscii (← m.repr v)).toList
  | 'd' | 'i' | 'u' | 'o' | 'x' | 'X' =>
    d.placed letter true (← integerText d letter (← m.directiveInt letter v))
  | 'e' | 'E' | 'f' | 'F' | 'g' | 'G' =>
    let x ← m.toFloat v
    if Text.maxLength < d.precision.getD 0 then plainFault .memoryError
    else d.placed letter true (Text.floatText (floatLayout d letter) x).toList
  | 'c' => d.placed letter false [← m.directiveChar v]
  | _ => plainFault .valueError

/-- Split a key off, up to the parenthesis that closes it. -/
def readKey : Nat → List Char → List Char → Option (String × List Char)
  | _, _, [] => none
  | depth, key, ')' :: cs =>
    match depth with
    | 0 => some (String.ofList key.reverse, cs)
    | depth + 1 => readKey depth (')' :: key) cs
  | depth, key, '(' :: cs => readKey (depth + 1) ('(' :: key) cs
  | depth, key, c :: cs => readKey depth (c :: key) cs

/-- The values behind a key, if the directive starts with one. -/
def supplyOf (table? : Option Value) (supply : Supply) :
    List Char → Prog (Supply × List Char)
  | '(' :: cs => do
    match table? with
    | none => wrongType
    | some table =>
      match readKey 0 [] cs with
      | none => plainFault .valueError
      | some (key, cs) => return (.single (← m.getItem table (.text key)) false, cs)
  | cs => return (supply, cs)

/-- Follow one directive, behind its percent sign. -/
def followDirective (table? : Option Value) (supply : Supply) (cs : List Char) :
    Prog (List Char × Supply × List Char) := do
  let (supply, cs) ← m.supplyOf table? supply cs
  let (d, cs) := Directive.plain.readFlags cs
  let (d, supply, cs) ← d.readWidth supply cs
  let (d, supply, cs) ← d.readPrecision supply cs
  match Directive.skipSize cs with
  | [] => plainFault .valueError
  | letter :: cs => do
    let (v, supply) ← supply.take
    let text ← m.directiveText d letter v
    if table?.isSome && supply.isOpen then wrongType
    else return (text, supply, cs)

/-- Fill a pattern in, behind what is already written. -/
def fillFrom (table? : Option Value) :
    Nat → Supply → Array Char → List Char → Prog (Array Char × Supply)
  | 0, _, _, _ => throw .exhausted
  | _, supply, written, [] => return (written, supply)
  | steps + 1, supply, written, '%' :: cs => do
    let (text, supply, cs) ← match cs with
      | '%' :: cs => pure (['%'], supply, cs)
      | cs => m.followDirective table? supply cs
    fillFrom table? steps supply (written ++ text.toArray) cs
  | steps + 1, supply, written, c :: cs => fillFrom table? steps supply (written.push c) cs

/-- Whether values can be taken from a value by keys. -/
def isTable (v : Value) : Prog Bool :=
  match v with
  | .list _ | .dict _ | .entries _ => return true
  | v => hasHook v "__getitem__"

/-- Fill a pattern with a value or, if it is a tuple, with its items. -/
def fillPattern (s : String) (v : Value) : Prog Value := do
  let supply ← match v with
    | .tuple r => do pure (Supply.row (← tupleItems r) 0)
    | v => pure (.single v false)
  let table? := if ← isTable v then some v else none
  let (written, supply) ← m.fillFrom table? (s.length + 1) supply #[] s.toList
  if table?.isNone && supply.isOpen then wrongType
  else return .text (String.ofList written.toList)

end Machine

end ObjectModel.Script
