/- GID: DroidOs/Util/MiniYaml
   generality: I
   source: src/droidos/util/miniyaml.py
   digest: The parser and the dumper of the built-in YAML subset. -/

import DroidOs.Lib.Dict
import DroidOs.Util.Characters

set_option autoImplicit false
set_option relaxedAutoImplicit false

namespace DroidOs.Util.MiniYaml

open DroidOs.Lib DroidOs.Core.Values DroidOs.Util.Characters

/-- An indentation and the text after it. -/
abbrev Line := Nat × List Char

/-- Why a parse does not return. The parser itself has no fuel, and never runs out of it. -/
inductive Stop
  | outOfFuel
  | miniYamlError (message : String)
  deriving DecidableEq

def isQuote (c : Char) : Bool := decide (c = '\'' ∨ c = '"')

/-! Lines. -/

/-- `_strip_comment`, after the character `before` and with quotes open as the flags say. -/
def stripComment (inSingle inDouble : Bool) (before : Option Char) : List Char → List Char
  | [] => []
  | c :: cs =>
    if c = '\'' ∧ inDouble = false then c :: stripComment (!inSingle) inDouble (some c) cs
    else if c = '"' ∧ inSingle = false then c :: stripComment inSingle (!inDouble) (some c) cs
    else if c = '#' ∧ inSingle = false ∧ inDouble = false ∧
        (before = none ∨ before = some ' ' ∨ before = some '\t') then []
    else c :: stripComment inSingle inDouble (some c) cs

def indentOf (line : List Char) : Nat := (line.takeWhile fun c => c = ' ').length

/-- `---` or `...`: the lines that mark a document. -/
def isMarker (s : List Char) : Bool := ['-', '-', '-'].isPrefixOf s || ['.', '.', '.'].isPrefixOf s

def cleanLine (raw : List Char) : Option Line :=
  let line := stripComment false false none raw
  if strip line = [] then none
  else if isMarker (line.dropWhile isSpace) then none
  else some (indentOf line, strip line)

/-- `_clean_lines`. -/
def cleanLines (text : List Char) : List Line := (splitlines text).filterMap cleanLine

/-! Scalars. -/

/-- The part being read and the quotes it is inside. -/
def splitFlowFrom : List Char → Bool → Bool → List Char → List (List Char)
  | buf, _, _, [] => if strip buf = [] then [] else [strip buf]
  | buf, inSingle, inDouble, c :: cs =>
    let inSingle' := if c = '\'' ∧ inDouble = false then !inSingle else inSingle
    let inDouble' := if ¬ (c = '\'' ∧ inDouble = false) ∧ c = '"' ∧ inSingle = false
      then !inDouble else inDouble
    if c = ',' ∧ inSingle' = false ∧ inDouble' = false
    then strip buf :: splitFlowFrom [] inSingle' inDouble' cs
    else splitFlowFrom (buf ++ [c]) inSingle' inDouble' cs

/-- `_split_flow`. -/
def splitFlow (inner : List Char) : List (List Char) := splitFlowFrom [] false false inner

/-- `token[1:-1]`. -/
def inside (token : List Char) : List Char := token.tail.dropLast

def looksQuoted (token : List Char) : Bool :=
  decide (2 ≤ token.length ∧ token.head? = token.getLast?) && token.head?.any isQuote

def looksFlow (token : List Char) : Bool :=
  decide (2 ≤ token.length ∧ token.head? = some '[' ∧ token.getLast? = some ']')

/-- The words that name a value other than a text. -/
def word (token : List Char) : Option PyVal :=
  if token = [] ∨ token = "null".toList ∨ token = "~".toList ∨ token = "None".toList then some .none
  else if token = "true".toList ∨ token = "True".toList then some (.bool true)
  else if token = "false".toList ∨ token = "False".toList then some (.bool false)
  else if token = "[]".toList then some (.list [])
  else if token = "\x7b\x7d".toList then some (.dict [])
  else none

variable (text : YamlText)

/-- `_scalar` on a token of less than `fuel` characters. -/
def scalarWithin : Nat → List Char → PyVal
  | 0, _ => .none
  | fuel + 1, raw =>
    let token := strip raw
    if let some value := word token then value
    else if looksQuoted token then .str (String.ofList (inside token))
    else if looksFlow token then
      let inner := strip (inside token)
      if inner = [] then .list [] else .list ((splitFlow inner).map (scalarWithin fuel))
    else if let some n := int text token then .int n
    else if let some x := text.parseFloat (String.ofList token) then .float x
    else .str (String.ofList token)

/-- `_scalar`. -/
def scalar (token : List Char) : PyVal := scalarWithin text (token.length + 1) token

/-! Blocks. -/

/-- `_block_scalar_kind`: whether the block is folded, and whether its end is chomped. -/
def blockScalarKind (rest : List Char) : Option (Bool × Bool) :=
  match strip rest with
  | '|' :: tail => some (false, decide ('-' ∈ tail))
  | '>' :: tail => some (true, decide ('-' ∈ tail))
  | _ => none

/-- `_parse_block_scalar`: the text of the lines below the header and what follows them. -/
def parseBlockScalar (lines : List Line) (indent : Nat) (block : Bool × Bool) :
    List Char × List Line :=
  let parts := (lines.takeWhile fun line => indent < line.1).map Prod.snd
  let joined := if block.1 then [' '].intercalate parts else ['\n'].intercalate parts
  let ended := if !block.2 && !parts.isEmpty && !block.1 then joined ++ ['\n'] else joined
  (ended, lines.dropWhile fun line => indent < line.1)

/-- `content.startswith("- ")`. -/
def isItem (content : List Char) : Bool := ['-', ' '].isPrefixOf content

def shown (content : List Char) : String := String.ofList (reprText text.printable content)

/-- The entries of a mapping under text keys. -/
abbrev Entries := List (String × PyVal)

def mapping (entries : Entries) : PyVal := .dict (entries.map fun e => (.str e.1, e.2))

mutual

/-- `_parse_block`. -/
def parseBlock : Nat → List Line → Nat → Except Stop (PyVal × List Line)
  | 0, _, _ => .error .outOfFuel
  | fuel + 1, lines, indent =>
    if lines.head?.any fun line => isItem line.2 then do
      let (items, rest) ← parseList fuel lines indent []
      return (.list items, rest)
    else do
      let (entries, rest) ← parseMap fuel lines indent []
      return (mapping entries, rest)

/-- `_parse_map`, with the entries read so far. -/
def parseMap : Nat → List Line → Nat → Entries → Except Stop (Entries × List Line)
  | 0, _, _, _ => .error .outOfFuel
  | _ + 1, [], _, result => .ok (result, [])
  | fuel + 1, (current, content) :: lines, indent, result =>
    if current < indent then .ok (result, (current, content) :: lines)
    else if indent < current then .error (.miniYamlError ("bad indent at " ++ shown text content))
    else if isItem content then
      .error (.miniYamlError ("unexpected list item in mapping: " ++ shown text content))
    else if ':' ∉ content then
      .error (.miniYamlError ("expected 'key: value' but got " ++ shown text content))
    else
      let key := String.ofList (strip (content.takeWhile fun c => c ≠ ':'))
      let rest := strip (content.dropWhile fun c => c ≠ ':').tail
      match blockScalarKind rest with
      | some block =>
        let (value, below) := parseBlockScalar lines indent block
        parseMap fuel below indent (Dict.set key (.str (String.ofList value)) result)
      | none =>
        if rest = [] then
          match lines.head? with
          | some child =>
            if indent < child.1 then do
              let (value, below) ← parseBlock fuel lines child.1
              parseMap fuel below indent (Dict.set key value result)
            else parseMap fuel lines indent (Dict.set key .none result)
          | none => parseMap fuel lines indent (Dict.set key .none result)
        else parseMap fuel lines indent (Dict.set key (scalar text rest) result)

/-- `_parse_list`, with the items read so far. -/
def parseList : Nat → List Line → Nat → List PyVal → Except Stop (List PyVal × List Line)
  | 0, _, _, _ => .error .outOfFuel
  | _ + 1, [], _, result => .ok (result, [])
  | fuel + 1, (current, content) :: lines, indent, result =>
    if current < indent ∨ (isItem content = false ∧ current = indent) then
      .ok (result, (current, content) :: lines)
    else if indent < current then
      .error (.miniYamlError ("bad list indent at " ++ shown text content))
    else
      let item := strip (content.drop 2)
      if ':' ∈ item ∧ item.head?.any isQuote = false then do
        -- the item starts a mapping, whose other entries are the deeper lines
        let below := lines.takeWhile fun line => indent < line.1
        let (entries, _) ← parseMap fuel ((indent + 2, item) :: below) (indent + 2) []
        parseList fuel (lines.dropWhile fun line => indent < line.1) indent
          (result ++ [mapping entries])
      else parseList fuel lines indent (result ++ [scalar text item])

end

/-- `_parse`. -/
def parse (document : List Char) : Except Stop PyVal :=
  match cleanLines document with
  | [] => .ok .none
  | line :: lines => do
    let (value, rest) ← parseBlock text (3 * (line :: lines).length + 3) (line :: lines) line.1
    match rest with
    | [] => return value
    | (_, content) :: _ =>
      .error (.miniYamlError ("unexpected indentation near: " ++ shown text content))

/-! The dumper. -/

mutual

/-- `repr(v)`. -/
def repr : PyVal → List Char
  | .none => "None".toList
  | .bool b => if b then "True".toList else "False".toList
  | .int n => intText n
  | .float x => (text.str (.float x)).toList
  | .str s => reprText text.printable s.toList
  | .list items => ['['] ++ [',', ' '].intercalate (reprItems items) ++ [']']
  | .dict items => ['\x7b'] ++ [',', ' '].intercalate (reprEntries items) ++ ['\x7d']

def reprItems : List PyVal → List (List Char)
  | [] => []
  | item :: items => repr item :: reprItems items

def reprEntries : List (PyVal × PyVal) → List (List Char)
  | [] => []
  | (key, value) :: items => (repr key ++ [':', ' '] ++ repr value) :: reprEntries items

end

/-- `str(v)`. -/
def str : PyVal → List Char
  | .str s => s.toList
  | v => repr text v

/-- What the dumper writes in quotes. -/
def quotes (s : List Char) : Bool := decide (s = [] ∨ ':' ∈ s ∨ '#' ∈ s ∨ strip s ≠ s)

/-- `_dump_scalar`. -/
def dumpScalar : PyVal → List Char
  | .none => "null".toList
  | .bool b => if b then "true".toList else "false".toList
  | .int n => intText n
  | .float x => (text.str (.float x)).toList
  | v => if quotes (str text v) then ['"'] ++ str text v ++ ['"'] else str text v

/-- A mapping or a list that has a block of its own. -/
def nested : PyVal → Bool
  | .dict items => !items.isEmpty
  | .list items => !items.isEmpty
  | _ => false

def pad (indent : Nat) : List Char := List.replicate indent ' '

/-- `s.rstrip("\n")`. -/
def rstripNewlines (s : List Char) : List Char := s.rdropWhile fun c => c = '\n'

mutual

/-- `_dump`. -/
def dump (indent : Nat) : PyVal → List Char
  | .dict items =>
    if items.isEmpty then pad indent ++ "\x7b\x7d\n".toList
    else joinLines (dumpEntries indent items) ++ ['\n']
  | .list items =>
    if items.isEmpty then pad indent ++ "[]\n".toList
    else joinLines (dumpItems indent items) ++ ['\n']
  | v => pad indent ++ dumpScalar text v ++ ['\n']

/-- The lines of a mapping's entries. -/
def dumpEntries (indent : Nat) : List (PyVal × PyVal) → List (List Char)
  | [] => []
  | (key, value) :: items =>
    (if nested value then
      [pad indent ++ str text key ++ [':'], rstripNewlines (dump (indent + 2) value)]
    else [pad indent ++ str text key ++ [':', ' '] ++ dumpScalar text value]) ++
      dumpEntries indent items

/-- The lines of a list's items. -/
def dumpItems (indent : Nat) : List PyVal → List (List Char)
  | [] => []
  | .dict entries :: items =>
    let block := splitlines (rstripNewlines (dump (indent + 2) (.dict entries)))
    (pad indent ++ ['-', ' '] ++ (block.headD []).dropWhile isSpace) :: block.tail ++
      dumpItems indent items
  | item :: items => (pad indent ++ ['-', ' '] ++ dumpScalar text item) :: dumpItems indent items

end

end DroidOs.Util.MiniYaml
