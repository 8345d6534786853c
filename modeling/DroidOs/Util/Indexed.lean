/- GID: DroidOs/Util/Indexed
   generality: I
   source: src/droidos/util/miniyaml.py
   digest: The YAML parser with its indices, its loops and every exception it may raise. -/

import DroidOs.Util.MiniYaml

set_option autoImplicit false
set_option relaxedAutoImplicit false

namespace DroidOs.Util.Indexed

open DroidOs.Lib DroidOs.Core.Values DroidOs.Util.Characters
open MiniYaml (Line Entries isQuote indentOf isMarker splitFlow inside word isItem shown mapping)

/-- Why a run does not return: its fuel is spent before it has ended, or it raises. -/
inductive Halt
  | running
  | indexError
  | valueError
  | miniYamlError (message : String)
  deriving DecidableEq

variable {α : Type}

/-- `s[i]`, for an index from the front. -/
def item (s : List α) (i : ℕ) : Except Halt α :=
  match s[i]? with
  | some a => .ok a
  | none => .error .indexError

/-- `s[-1]`. -/
def lastItem (s : List α) : Except Halt α :=
  match s.getLast? with
  | some a => .ok a
  | none => .error .indexError

/-! Lines. -/

/-- `_strip_comment`, from the character at `i` on. -/
def stripCommentFrom (line : List Char) : Bool → Bool → ℕ → List Char → Except Halt (List Char)
  | _, _, _, [] => .ok line
  | inSingle, inDouble, i, ch :: rest =>
    if ch = '\'' ∧ inDouble = false then stripCommentFrom line (!inSingle) inDouble (i + 1) rest
    else if ch = '"' ∧ inSingle = false then stripCommentFrom line inSingle (!inDouble) (i + 1) rest
    else if ch = '#' ∧ inSingle = false ∧ inDouble = false then
      if i = 0 then .ok (line.take i)
      else do
        let before ← item line (i - 1)
        if before = ' ' ∨ before = '\t' then return line.take i
        else stripCommentFrom line inSingle inDouble (i + 1) rest
    else stripCommentFrom line inSingle inDouble (i + 1) rest

def stripComment (line : List Char) : Except Halt (List Char) :=
  stripCommentFrom line false false 0 line

/-- One round of the loop in `_clean_lines`. -/
def cleanLine (raw : List Char) : Except Halt (Option Line) := do
  let line ← stripComment raw
  if strip line = [] then return none
  else if isMarker (line.dropWhile isSpace) then return none
  else return some (indentOf line, strip line)

def cleanEach : List (List Char) → Except Halt (List Line)
  | [] => .ok []
  | raw :: raws => do
    let line ← cleanLine raw
    let lines ← cleanEach raws
    return line.toList ++ lines

/-- `_clean_lines`. -/
def cleanLines (text : List Char) : Except Halt (List Line) := cleanEach (splitlines text)

/-! Scalars. -/

/-- `len(token) >= 2 and token[0] == token[-1] and token[0] in ("'", '"')`. -/
def looksQuoted (token : List Char) : Except Halt Bool :=
  if 2 ≤ token.length then do
    let first ← item token 0
    let last ← lastItem token
    if first = last then do
      let first ← item token 0
      return isQuote first
    else return false
  else .ok false

/-- `len(token) >= 2 and token[0] == "[" and token[-1] == "]"`. -/
def looksFlow (token : List Char) : Except Halt Bool :=
  if 2 ≤ token.length then do
    let first ← item token 0
    if first = '[' then do
      let last ← lastItem token
      return decide (last = ']')
    else return false
  else .ok false

variable (text : YamlText)

/-- `int(token)`. -/
def readInt (token : List Char) : Except Halt Int :=
  match int text token with
  | some n => .ok n
  | none => .error .valueError

/-- `float(token)`. -/
def readFloat (token : List Char) : Except Halt PyFloat :=
  match text.parseFloat (String.ofList token) with
  | some x => .ok x
  | none => .error .valueError

/-- The two `try` blocks at the end of `_scalar`. -/
def number (token : List Char) : Except Halt PyVal :=
  match readInt text token with
  | .ok n => .ok (.int n)
  | .error .valueError =>
    match readFloat text token with
    | .ok x => .ok (.float x)
    | .error .valueError => .ok (.str (String.ofList token))
    | .error halt => .error halt
  | .error halt => .error halt

/-- `_scalar`. -/
def scalar : ℕ → List Char → Except Halt PyVal
  | 0, _ => .error .running
  | fuel + 1, raw =>
    let token := strip raw
    match word token with
    | some value => .ok value
    | none => do
      if ← looksQuoted token then return .str (String.ofList (inside token))
      else if ← looksFlow token then
        let inner := strip (inside token)
        if inner = [] then return .list []
        else do
          let values ← (splitFlow inner).mapM (scalar fuel)
          return .list values
      else number text token

/-! Blocks. -/

/-- `_block_scalar_kind`: whether the block is folded, and whether its end is chomped. -/
def blockScalarKind (rest : List Char) : Except Halt (Option (Bool × Bool)) :=
  let head := strip rest
  if head = [] then .ok none
  else do
    let first ← item head 0
    if first ≠ '|' ∧ first ≠ '>' then return none
    else do
      let first ← item head 0
      return some (decide (first ≠ '|'), decide ('-' ∈ head.drop 1))

/-- The loop that takes what it needs of the lines deeper than `indent`. -/
def deeper (lines : List Line) (indent : ℕ) (part : Line → α) :
    ℕ → ℕ → List α → Except Halt (List α × ℕ)
  | 0, _, _ => .error .running
  | fuel + 1, i, parts =>
    if i < lines.length then do
      let line ← item lines i
      if indent < line.1 then do
        let line ← item lines i
        deeper lines indent part fuel (i + 1) (parts ++ [part line])
      else return (parts, i)
    else .ok (parts, i)

/-- `_parse_block_scalar`. -/
def parseBlockScalar (fuel : ℕ) (lines : List Line) (start indent : ℕ) (block : Bool × Bool) :
    Except Halt (List Char × ℕ) := do
  let (parts, i) ← deeper lines indent Prod.snd fuel start []
  let joined := if block.1 then [' '].intercalate parts else ['\n'].intercalate parts
  return (if !block.2 && !parts.isEmpty && !block.1 then joined ++ ['\n'] else joined, i)

/-- `":" in item and not (item[0] in ("'", '"'))`. -/
def opensMapping (entry : List Char) : Except Halt Bool :=
  if ':' ∈ entry then do
    let first ← item entry 0
    return !isQuote first
  else .ok false

mutual

/-- `_parse_block`. -/
def parseBlock : ℕ → List Line → ℕ → ℕ → Except Halt (PyVal × ℕ)
  | 0, _, _, _ => .error .running
  | fuel + 1, lines, start, indent => do
    let line ← item lines start
    if isItem line.2 then do
      let (items, i) ← parseList fuel lines start indent []
      return (.list items, i)
    else do
      let (entries, i) ← parseMap fuel lines start indent []
      return (mapping entries, i)

/-- The loop of `_parse_map` from the line at `i` on, with the entries read so far. -/
def parseMap : ℕ → List Line → ℕ → ℕ → Entries → Except Halt (Entries × ℕ)
  | 0, _, _, _, _ => .error .running
  | fuel + 1, lines, i, indent, result =>
    if i < lines.length then do
      let (current, content) ← item lines i
      if current < indent then return (result, i)
      else if indent < current then
        .error (.miniYamlError ("bad indent at " ++ shown text content))
      else if isItem content then
        .error (.miniYamlError ("unexpected list item in mapping: " ++ shown text content))
      else if ':' ∉ content then
        .error (.miniYamlError ("expected 'key: value' but got " ++ shown text content))
      else
        let key := String.ofList (strip (content.takeWhile fun c => c ≠ ':'))
        let rest := strip (content.dropWhile fun c => c ≠ ':').tail
        match ← blockScalarKind rest with
        | some block => do
          let (value, j) ← parseBlockScalar fuel lines (i + 1) indent block
          parseMap fuel lines j indent (Dict.set key (.str (String.ofList value)) result)
        | none =>
          if rest = [] then
            if i + 1 < lines.length then do
              let child ← item lines (i + 1)
              if indent < child.1 then do
                let child ← item lines (i + 1)
                let (value, j) ← parseBlock fuel lines (i + 1) child.1
                parseMap fuel lines j indent (Dict.set key value result)
              else parseMap fuel lines (i + 1) indent (Dict.set key .none result)
            else parseMap fuel lines (i + 1) indent (Dict.set key .none result)
          else do
            let value ← scalar text fuel rest
            parseMap fuel lines (i + 1) indent (Dict.set key value result)
    else .ok (result, i)

/-- The loop of `_parse_list` from the line at `i` on, with the items read so far. -/
def parseList : ℕ → List Line → ℕ → ℕ → List PyVal → Except Halt (List PyVal × ℕ)
  | 0, _, _, _, _ => .error .running
  | fuel + 1, lines, i, indent, result =>
    if i < lines.length then do
      let (current, content) ← item lines i
      if current < indent ∨ (isItem content = false ∧ current = indent) then return (result, i)
      else if indent < current then
        .error (.miniYamlError ("bad list indent at " ++ shown text content))
      else
        let entry := strip (content.drop 2)
        if ← opensMapping entry then do
          -- the loop over `j` and the sub-block that is parsed again
          let (synth, j) ← deeper lines indent id fuel (i + 1) [(indent + 2, entry)]
          let (entries, _) ← parseMap fuel synth 0 (indent + 2) []
          parseList fuel lines j indent (result ++ [mapping entries])
        else do
          let value ← scalar text fuel entry
          parseList fuel lines (i + 1) indent (result ++ [value])
    else .ok (result, i)

end

/-- `_parse`, with fuel for its loops and its recursion. -/
def parse (fuel : ℕ) (document : List Char) : Except Halt PyVal := do
  let lines ← cleanLines document
  if lines = [] then return .none
  else do
    let first ← item lines 0
    let (value, consumed) ← parseBlock text fuel lines 0 first.1
    if consumed ≠ lines.length then do
      let line ← item lines consumed
      .error (.miniYamlError ("unexpected indentation near: " ++ shown text line.2))
    else return value

end DroidOs.Util.Indexed
