import Layering.Regex.Syntax

/-! Reading a regular expression. A pattern that breaks a rule is refused without a reason. -/
namespace Layering.Regex

/-- The flags that a pattern sets for the rest of a group. -/
structure Flags where
  caseInsensitive : Bool := false
  multiLine : Bool := false
  dotMatchesNewline : Bool := false
  swapGreed : Bool := false
  unicode : Bool := true
  crlf : Bool := false
  ignoreBlanks : Bool := false

/-- In a pattern with ignored blanks, skips blanks and comments. -/
def skip (flags : Flags) (cs : List Char) : List Char :=
  if flags.ignoreBlanks then go false cs else cs
where
  /-- The first argument tells whether a comment is being skipped. -/
  go : Bool → List Char → List Char
    | _, [] => []
    | true, c :: cs => go (c ≠ '\n') cs
    | false, c :: cs => if c = '#' then go true cs else if Text.isBlank c then go false cs else c :: cs

def isHexDigit (c : Char) : Bool := c.isDigit || ('a' ≤ c && c ≤ 'f') || ('A' ≤ c && c ≤ 'F')

def hexValue (c : Char) : Nat :=
  if c.isDigit then c.toNat - '0'.toNat
  else if 'a' ≤ c then c.toNat - 'a'.toNat + 10 else c.toNat - 'A'.toNat + 10

/-- The character whose code the hexadecimal digits spell. -/
def codePoint? (digits : List Char) : Option Char :=
  let n := digits.foldl (fun n c => n * 16 + hexValue c) 0
  if !digits.isEmpty && digits.all isHexDigit && n.isValidChar then some (Char.ofNat n) else none

/-- So many digits at the start of a pattern. -/
def takeDigits (flags : Flags) : Nat → List Char → Option (List Char × List Char)
  | 0, cs => some ([], cs)
  | count + 1, cs =>
    match skip flags cs with
    | c :: rest =>
      if isHexDigit c then (takeDigits flags count rest).map fun (digits, rest) => (c :: digits, rest) else none
    | [] => none

/-- The characters before a closing mark, blanks skipped if ignored. -/
def takeUntil (flags : Flags) (stop : Char) : Nat → List Char → Option (List Char × List Char)
  | 0, _ => none
  | fuel + 1, cs =>
    match skip flags cs with
    | c :: rest =>
      if c = stop then some ([], rest)
      else (takeUntil flags stop fuel rest).map fun (name, rest) => (c :: name, rest)
    | [] => none

/-- What an escape or a plain character stands for. -/
inductive Primitive where
  /-- A character. The flag tells whether two hexadecimal digits spell it. -/
  | char (c : Char) (isByte : Bool)
  | set (set : CharSet)
  | look (look : Look)

def isMeta (c : Char) : Bool :=
  c ∈ ['\\', '.', '+', '*', '?', '(', ')', '|', '[', ']', '\x7b', '\x7d', '^', '$', '#', '&', '-', '~']

/-- A character that stands for itself after a backslash: any ASCII character but letters, digits and angle
brackets. -/
def isEscapable (c : Char) : Bool :=
  isMeta c || (c.toNat < 128 && !c.isAlphanum && c ≠ '<' && c ≠ '>')

/-- The set of a lower-case class letter. -/
def perlSet (unicode : Bool) (c : Char) : CharSet :=
  if c = 'd' then (if unicode then .digit else .asciiDigit)
  else if c = 's' then (if unicode then .blank else .asciiBlank)
  else (if unicode then .word else .asciiWord)

/-- The part of a list before the first occurrence of a list, and the part after it. -/
def cutAt? (mark : List Char) : List Char → Option (List Char × List Char)
  | [] => none
  | c :: cs =>
    if mark.isPrefixOf (c :: cs) then some ([], (c :: cs).drop mark.length)
    else (cutAt? mark cs).map fun (before, after) => (c :: before, after)

/-- The set that a property in braces names. -/
def bracedProperty? (name : List Char) : Option CharSet :=
  let value? (cut : List Char × List Char) : Option CharSet :=
    CharSet.propertyValue? (.ofList cut.1) (.ofList cut.2)
  match cutAt? ['!', '='] name with
  | some cut => (value? cut).map .compl
  | none =>
    match cutAt? [':'] name with
    | some cut => value? cut
    | none =>
      match cutAt? ['='] name with
      | some cut => value? cut
      | none => CharSet.property? (.ofList name)

/-- Closes a set under case if asked, and takes its complement if it is negated. -/
def foldAndNegate (flags : Flags) (negated : Bool) (s : CharSet) : CharSet :=
  let s := if flags.caseInsensitive then .fold (!flags.unicode) s else s
  if negated then .compl s else s

/-- A property after its letter. -/
def property? (flags : Flags) (negated : Bool) (cs : List Char) : Option (Primitive × List Char) :=
  if !flags.unicode then none
  else
    let read :=
      match skip flags cs with
      | '\x7b' :: rest =>
        (takeUntil flags '\x7d' (rest.length + 1) rest).bind fun (name, rest) =>
          (bracedProperty? name).map fun s => (s, rest)
      | c :: rest =>
        if c = '\\' then none else (CharSet.property? (.ofList [c])).map fun s => (s, skip flags rest)
      | [] => none
    read.map fun (s, rest) => (.set (foldAndNegate flags negated s), rest)

/-- A boundary in braces, where a boundary of words may be followed by one. -/
def specialBoundary? (ascii : Bool) (cs : List Char) : Option (Look × List Char) :=
  match cs with
  | '\x7b' :: rest =>
    match cutAt? ['\x7d'] rest with
    | some (name, rest) =>
      match String.ofList name with
      | "start" => some (.wordStart ascii, rest)
      | "end" => some (.wordEnd ascii, rest)
      | "start-half" => some (.wordStartHalf ascii, rest)
      | "end-half" => some (.wordEndHalf ascii, rest)
      | _ => none
    | none => none
  | _ => none

/-- A character given by its code, after the letter that announces it. -/
def hexEscape? (flags : Flags) (count : Nat) (cs : List Char) : Option (Primitive × List Char) :=
  match skip flags cs with
  | '\x7b' :: rest =>
    (takeUntil flags '\x7d' (rest.length + 1) rest).bind fun (digits, rest) =>
      (codePoint? digits).map fun c => (.char c false, rest)
  | cs =>
    (takeDigits flags count cs).bind fun (digits, rest) =>
      (codePoint? digits).map fun c => (.char c (count = 2), rest)

/-- An escape, after its backslash. -/
def escape? (flags : Flags) : List Char → Option (Primitive × List Char)
  | [] => none
  | c :: rest =>
    let plain (c : Char) : Option (Primitive × List Char) := some (.char c false, rest)
    let look (l : Look) : Option (Primitive × List Char) := some (.look l, rest)
    let ascii := !flags.unicode
    if c = 'x' then hexEscape? flags 2 rest
    else if c = 'u' then hexEscape? flags 4 rest
    else if c = 'U' then hexEscape? flags 8 rest
    else if c = 'p' then property? flags false rest
    else if c = 'P' then property? flags true rest
    else if c = 'd' ∨ c = 's' ∨ c = 'w' then some (.set (perlSet flags.unicode c), rest)
    else if c = 'D' ∨ c = 'S' ∨ c = 'W' then
      if flags.unicode then some (.set (.compl (perlSet true c.toLower)), rest) else none
    else if isEscapable c then plain c
    else if c = 'a' then plain '\x07'
    else if c = 'f' then plain '\x0c'
    else if c = 't' then plain '\t'
    else if c = 'n' then plain '\n'
    else if c = 'r' then plain '\r'
    else if c = 'v' then plain '\x0b'
    else if c = 'A' then look .textStart
    else if c = 'z' then look .textEnd
    else if c = 'b' then
      match rest with
      | '\x7b' :: d :: _ =>
        if d.isAlpha ∨ d = '-' then (specialBoundary? ascii rest).map fun (l, rest) => (.look l, rest)
        else look (.wordBoundary ascii)
      | _ => look (.wordBoundary ascii)
    else if c = 'B' then look (.noWordBoundary ascii)
    else if c = '<' then look (.wordStart ascii)
    else if c = '>' then look (.wordEnd ascii)
    else none

/-- The set of a single character outside a class. Without Unicode a byte that is no character is refused, and
so is a character beyond ASCII if case does not matter. -/
def charSet? (flags : Flags) (c : Char) (isByte : Bool) : Option CharSet :=
  if !flags.unicode && 127 < c.toNat && (isByte || flags.caseInsensitive) then none
  else some (foldAndNegate flags false (.char c))

/-- The set of a character inside a class. -/
def classChar? (flags : Flags) (c : Char) : Option CharSet :=
  if !flags.unicode && 127 < c.toNat then none else some (.char c)

/-- An operation between the operands of a class. -/
inductive ClassOp where
  | inter
  | diff
  | symmetricDiff

/-- Applies an operation of classes. -/
def ClassOp.apply (flags : Flags) (op : ClassOp) (a b : CharSet) : CharSet :=
  let fold (s : CharSet) := foldAndNegate flags false s
  match op with
  | inter => .inter (fold a) (fold b)
  | diff => .diff (fold a) (fold b)
  | symmetricDiff => .diff (.union (fold a) (fold b)) (.inter (fold a) (fold b))

/-- What is read of a class so far: the operand and operation that are complete, and the items after them. -/
structure ClassState where
  before : Option (CharSet × ClassOp) := none
  items : CharSet := .none

/-- The set of the operands read so far. -/
def ClassState.close (flags : Flags) (s : ClassState) : CharSet :=
  match s.before with
  | some (set, op) => op.apply flags set s.items
  | none => s.items

def ClassState.add (s : ClassState) (set : CharSet) : ClassState := { s with items := .union s.items set }

/-- Starts the next operand. -/
def ClassState.operate (flags : Flags) (s : ClassState) (op : ClassOp) : ClassState :=
  { before := some (s.close flags, op) }

/-- A class with a name, after its opening bracket. -/
def namedClass? (cs : List Char) : Option ((Bool × CharSet) × List Char) :=
  match cs with
  | ':' :: rest =>
    let (negated, rest) := match rest with
      | '^' :: rest => (true, rest)
      | rest => (false, rest)
    match rest.dropWhile (· ≠ ':') with
    | ':' :: ']' :: after =>
      (CharSet.named? (.ofList (rest.takeWhile (· ≠ ':')))).map fun s => ((negated, s), after)
    | _ => none
  | _ => none

/-- One character or escape of a class. -/
def classPrimitive? (flags : Flags) : List Char → Option (Primitive × List Char)
  | [] => none
  | '\\' :: rest => escape? flags rest
  | c :: rest => some (.char c false, rest)

/-- The dashes that open a class, and a closing bracket that stands first. -/
def classOpening (flags : Flags) : Nat → List Char → ClassState → ClassState × List Char
  | 0, cs, s => (s, cs)
  | fuel + 1, cs, s =>
    match skip flags cs with
    | '-' :: rest => classOpening flags fuel rest (s.add (.char '-'))
    | cs => (s, cs)

/-- An item of a class: a character, a range or a set. -/
def classItem? (flags : Flags) (cs : List Char) : Option (CharSet × List Char) := do
  let (first, rest) ← classPrimitive? flags cs
  let rest := skip flags rest
  let single : Option (CharSet × List Char) :=
    match first with
    | .char c _ => (classChar? flags c).map fun s => (s, rest)
    | .set s => some (s, rest)
    | .look _ => none
  match rest with
  | [] => none
  | '-' :: after =>
    match skip flags after with
    | ']' :: _ | '-' :: _ => single
    | after =>
      let (last, rest) ← classPrimitive? flags after
      match first, last with
      | .char a _, .char b _ =>
        if a ≤ b then do
          let _ ← classChar? flags a
          let _ ← classChar? flags b
          some (.between a b, rest)
        else none
      | _, _ => none
  | _ => single

mutual

/-- A class after its opening bracket. The first argument bounds the number of steps. -/
def class? (flags : Flags) : Nat → List Char → Option (CharSet × List Char)
  | 0, _ => none
  | fuel + 1, cs =>
    let (negated, cs) := match skip flags cs with
      | '^' :: rest => (true, rest)
      | cs => (false, cs)
    let (s, cs) := classOpening flags (cs.length + 1) cs {}
    let isFirst := match s.items with
      | .union _ _ => false
      | _ => true
    let (s, cs) := match isFirst, cs with
      | true, ']' :: rest => (s.add (.char ']'), rest)
      | _, cs => (s, cs)
    if negated && !flags.unicode then none
    else
      (classItems? flags fuel cs s).map fun (set, rest) => (foldAndNegate flags negated set, rest)

/-- The items of a class up to its closing bracket. -/
def classItems? (flags : Flags) : Nat → List Char → ClassState → Option (CharSet × List Char)
  | 0, _, _ => none
  | fuel + 1, cs, s =>
    match skip flags cs with
    | [] => none
    | ']' :: rest => some (s.close flags, rest)
    | '&' :: '&' :: rest => classItems? flags fuel rest (s.operate flags .inter)
    | '-' :: '-' :: rest => classItems? flags fuel rest (s.operate flags .diff)
    | '~' :: '~' :: rest => classItems? flags fuel rest (s.operate flags .symmetricDiff)
    | '[' :: rest =>
      match namedClass? rest with
      | some ((negated, set), rest) =>
        if negated && !flags.unicode then none
        else classItems? flags fuel rest (s.add (foldAndNegate flags negated set))
      | none => do
        let (set, rest) ← class? flags fuel rest
        classItems? flags fuel rest (s.add set)
    | cs => do
      let (set, rest) ← classItem? flags cs
      classItems? flags fuel rest (s.add set)

end

/-- A count in a repetition. Blanks around it do not matter; it fits in thirty-two bits. -/
def count? (cs : List Char) : Option (Nat × List Char) :=
  let cs := cs.dropWhile Text.isBlank
  let digits := cs.takeWhile Char.isDigit
  let n := digits.foldl (fun n c => n * 10 + (c.toNat - '0'.toNat)) 0
  if digits.isEmpty ∨ UInt32.size ≤ n then none
  else some (n, (cs.dropWhile Char.isDigit).dropWhile Text.isBlank)

/-- The counts of a repetition, after its opening brace. -/
def counts? (flags : Flags) (cs : List Char) : Option ((Nat × Option Nat) × List Char) := do
  let (least, rest) ← count? (skip flags cs)
  let (most, rest) ← match rest with
    | ',' :: rest =>
      match skip flags rest with
      | '\x7d' :: rest => some (none, '\x7d' :: rest)
      | rest => (count? rest).map fun (most, rest) => (some most, rest)
    | rest => some (some least, rest)
  match rest with
  | '\x7d' :: rest => if most.any (· < least) then none else some ((least, most), rest)
  | _ => none

/-- The repetitions that follow an expression. -/
def repetitions? (flags : Flags) : Nat → Regex → List Char → Option (Regex × List Char)
  | 0, _, _ => none
  | fuel + 1, a, cs =>
    let mark (least : Nat) (most : Option Nat) (rest : List Char) :=
      match rest with
      | '?' :: rest => repetitions? flags fuel (.repeat a least most flags.swapGreed) rest
      | rest => repetitions? flags fuel (.repeat a least most (!flags.swapGreed)) rest
    match skip flags cs with
    | '*' :: rest => mark 0 none rest
    | '+' :: rest => mark 1 none rest
    | '?' :: rest => mark 0 (some 1) rest
    | '\x7b' :: rest => do
      let ((least, most), rest) ← counts? flags rest
      mark least most (skip flags rest)
    | cs => some (a, cs)

/-- The flags before a colon or a closing bracket, and that character. -/
def flagItems? : List Char → List Char → Option (List Char × Char × List Char)
  | _, [] => none
  | seen, c :: cs =>
    if c = ':' ∨ c = ')' then
      if seen.head? = some '-' then none else some (seen.reverse, c, cs)
    else if c ∈ seen then none
    else if c ∈ ['i', 'm', 's', 'U', 'u', 'R', 'x', '-'] then flagItems? (c :: seen) cs
    else none

/-- Sets the flags that are named, and clears those after a dash. -/
def Flags.update (flags : Flags) (items : List Char) : Flags :=
  (items.foldl (fun (on, flags) c =>
    if c = '-' then (false, flags)
    else if c = 'i' then (on, { flags with caseInsensitive := on })
    else if c = 'm' then (on, { flags with multiLine := on })
    else if c = 's' then (on, { flags with dotMatchesNewline := on })
    else if c = 'U' then (on, { flags with swapGreed := on })
    else if c = 'u' then (on, { flags with unicode := on })
    else if c = 'R' then (on, { flags with crlf := on })
    else (on, { flags with ignoreBlanks := on })) (true, flags)).2

/-- The name of a group, up to its closing angle bracket. -/
def groupName? (cs : List Char) : Option (String × List Char) :=
  let name := cs.takeWhile (· ≠ '>')
  let isNameChar (c : Char) : Bool :=
    c = '_' || c = '.' || c = '[' || c = ']' || Text.isLetterOrNumber c
  match name, cs.dropWhile (· ≠ '>') with
  | first :: others, '>' :: rest =>
    if (first = '_' || Text.isLetter first) && others.all isNameChar then some (.ofList name, rest) else none
  | _, _ => none

/-- What the opening of a group announces. -/
inductive Opening where
  /-- A group, with the flags inside it. -/
  | group (flags : Flags) (name : Option String)
  /-- Flags for the rest of the group around. -/
  | setFlags (flags : Flags)

/-- The opening of a group, after its bracket. -/
def opening? (flags : Flags) (cs : List Char) : Option (Opening × List Char) :=
  let named (rest : List Char) :=
    (groupName? rest).map fun (name, rest) => (Opening.group flags (some name), rest)
  match skip flags cs with
  | '?' :: '=' :: _ | '?' :: '!' :: _ | '?' :: '<' :: '=' :: _ | '?' :: '<' :: '!' :: _ => none
  | '?' :: 'P' :: '<' :: rest => named rest
  | '?' :: '<' :: rest => named rest
  | '?' :: rest =>
    match flagItems? [] rest with
    | some (items, ':', rest) => some (.group (flags.update items) none, rest)
    | some (items, _, rest) => if items.isEmpty then none else some (.setFlags (flags.update items), rest)
    | none => none
  | cs => some (.group flags none, cs)

/-- The dot: any character, line ends excepted unless asked. -/
def dot? (flags : Flags) : Option Regex :=
  if !flags.unicode then none
  else if flags.dotMatchesNewline then some (.oneOf .any)
  else if flags.crlf then some (.oneOf (.compl (.union (.char '\n') (.char '\r'))))
  else some (.oneOf (.compl (.char '\n')))

def startLook (flags : Flags) : Look :=
  if flags.multiLine then (if flags.crlf then .returnLineStart else .lineStart) else .textStart

def endLook (flags : Flags) : Look :=
  if flags.multiLine then (if flags.crlf then .returnLineEnd else .lineEnd) else .textEnd

/-- The expression of a character or an escape. -/
def primitive? (flags : Flags) : Primitive → Option Regex
  | .char c isByte => (charSet? flags c isByte).map .oneOf
  | .set s => some (.oneOf s)
  | .look look => some (.assertion look)

/-- What is known between two items of a pattern: the flags, and the names of groups seen so far. -/
structure Context where
  flags : Flags
  names : List String

mutual

/-- Alternatives, up to a closing bracket or the end. The first argument bounds the number of steps. -/
def alternatives? : Nat → Context → List Char → Option (Regex × Context × List Char)
  | 0, _, _ => none
  | fuel + 1, context, cs => do
    let (a, context, rest) ← items? fuel context .empty cs
    match rest with
    | '|' :: rest =>
      let (b, context, rest) ← alternatives? fuel context rest
      some (.alt a b, context, rest)
    | rest => some (a, context, rest)

/-- The items of one alternative, after what is read of it. -/
def items? : Nat → Context → Regex → List Char → Option (Regex × Context × List Char)
  | 0, _, _, _ => none
  | fuel + 1, context, a, cs =>
    let flags := context.flags
    let continueWith (context : Context) (b : Regex) (rest : List Char) := do
      let (b, rest) ← repetitions? flags (rest.length + 1) b rest
      items? fuel context (.seq a b) rest
    match skip flags cs with
    | [] => some (a, context, [])
    | c :: rest =>
      if c = '|' ∨ c = ')' then some (a, context, c :: rest)
      else if c = '*' ∨ c = '+' ∨ c = '?' ∨ c = '\x7b' then none
      else if c = '(' then do
        match ← opening? flags rest with
        | (.setFlags flags, rest) => items? fuel { context with flags } a rest
        | (.group inner name, rest) =>
          if name.any (context.names.contains ·) then none
          else
            let names := name.toList ++ context.names
            let (b, after, rest) ← alternatives? fuel ⟨inner, names⟩ rest
            match rest with
            | ')' :: rest => continueWith ⟨flags, after.names⟩ b rest
            | _ => none
      else if c = '[' then do
        let (set, rest) ← class? flags (rest.length + 1) rest
        continueWith context (.oneOf set) rest
      else if c = '.' then do continueWith context (← dot? flags) rest
      else if c = '^' then continueWith context (.assertion (startLook flags)) rest
      else if c = '$' then continueWith context (.assertion (endLook flags)) rest
      else if c = '\\' then do
        let (p, rest) ← escape? flags rest
        continueWith context (← primitive? flags p) rest
      else do continueWith context (← primitive? flags (.char c false)) rest

end

/-- The largest program that an expression may need. It stands for a limit of ten megabytes and is an estimate: a class
counts as one step however many ranges it has, so that `\w{300}` is accepted although its program is larger than that.
How deep groups are nested is not limited. -/
def costLimit : Nat := 327680

/-- The expression that a pattern spells. -/
def parse? (pattern : String) : Option Regex :=
  let cs := pattern.toList
  match alternatives? (2 * cs.length + 2) ⟨{}, []⟩ cs with
  | some (a, _, []) => if a.cost ≤ costLimit then some a else none
  | _ => none

end Layering.Regex
