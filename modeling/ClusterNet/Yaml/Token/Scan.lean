import ClusterNet.Yaml.Token.Tag
import ClusterNet.Yaml.Scalar.Block
import ClusterNet.Yaml.Scalar.Plain
import ClusterNet.Yaml.Scalar.Quoted

/- Splitting a text into tokens. Block collections start and end where the indentation changes; a
   scalar or collection is a key if a colon follows on its line. -/
namespace ClusterNet.Yaml.Token

structure Candidate where
  token : Nat
  index : Nat
  line : Nat
  column : Nat
  isRequired : Bool
  deriving DecidableEq, Repr

/-- A key stands on one line and within 1024 characters of its colon. -/
def Candidate.isStale (k : Candidate) (c : Cursor) : Bool :=
  k.line < c.line || k.index + 1024 < c.index

/-- How far a text has been split: the tokens, last first, and their number; the columns of the open
    block collections, innermost first; the candidates of the current and of the enclosing flow
    collections; and whether a key may start here. -/
structure Scan where
  cursor : Cursor
  tokens : List Token
  count : Nat
  keys : List LateKey
  blocks : List Nat
  candidate : Option Candidate
  enclosing : List (Option Candidate)
  keyAllowed : Bool
  deriving DecidableEq, Repr

namespace Scan

def start (cs : List Char) : Scan := ⟨.start cs, [], 0, [], [], none, [], true⟩

def isFlow (s : Scan) : Bool := !s.enclosing.isEmpty

def push (s : Scan) (token : Token) : Scan :=
  { s with tokens := token :: s.tokens, count := s.count + 1 }

def advance (s : Scan) (n : Nat) : Scan := { s with cursor := s.cursor.advance n }

def allowKey (s : Scan) (allowed : Bool) : Scan := { s with keyAllowed := allowed }

/-- A candidate that has to be a key cannot be given up. -/
def dropCandidate (s : Scan) : Option Scan :=
  if s.candidate.any (·.isRequired) then none else some { s with candidate := none }

def freshCandidate (s : Scan) : Candidate where
  token := s.count
  index := s.cursor.index
  line := s.cursor.line
  column := s.cursor.column
  isRequired := !s.isFlow && s.blocks.head? = some s.cursor.column

def saveCandidate (s : Scan) : Option Scan :=
  if s.keyAllowed then do
    let s ← s.dropCandidate
    return { s with candidate := some s.freshCandidate }
  else some s

def fresh (c : Cursor) (k : Option Candidate) : Option (Option Candidate) :=
  match k with
  | none => some none
  | some k => if !k.isStale c then some (some k) else if k.isRequired then none else some none

def dropStale (s : Scan) : Option Scan := do
  return {
    s with
    candidate := ← fresh s.cursor s.candidate
    enclosing := ← s.enclosing.mapM (fresh s.cursor) }

def isDeeper (s : Scan) (column : Nat) : Bool := !s.isFlow && s.blocks.head?.all (· < column)

def openBlock (s : Scan) (token : Token) : Scan :=
  if s.isDeeper s.cursor.column then { s.push token with blocks := s.cursor.column :: s.blocks }
  else s

def closeBlocks (s : Scan) (column : Option Nat) : Scan :=
  if s.isFlow then s
  else
    let closed := s.blocks.takeWhile fun open_ => column.all (· < open_)
    { closed.foldl (fun s _ => s.push .blockEnd) s with blocks := s.blocks.drop closed.length }

/-- Over spaces, comments and breaks to the next token. Tabs count as spaces where no key may
    start. -/
def skipSpace : Nat → Scan → Scan
  | 0, s => s
  | fuel + 1, s =>
    let tabs := s.isFlow || !s.keyAllowed
    let c := (s.cursor.skip fun ch => ch = ' ' || (tabs && ch = '\t')).skipComment
    match c.break? with
    | some (_, next) =>
      skipSpace fuel { s with cursor := next, keyAllowed := s.keyAllowed || !s.isFlow }
    | none => { s with cursor := c }

def atMargin (s : Scan) : Option Scan := do
  return (← (s.closeBlocks none).dropCandidate).allowKey false

def directive (s : Scan) : Option Scan := do
  let s ← s.atMargin
  let (token, next) ← readDirective s.cursor
  return { s.push token with cursor := next }

def documentMark (s : Scan) (token : Token) : Option Scan := do
  return ((← s.atMargin).push token).advance 3

def openFlow (s : Scan) (token : Token) : Option Scan := do
  let s ← s.saveCandidate
  return {
    (s.push token).advance 1 with
    candidate := none
    enclosing := s.candidate :: s.enclosing
    keyAllowed := true }

def closeFlow (s : Scan) (token : Token) : Option Scan := do
  let s := (((← s.dropCandidate).push token).advance 1).allowKey false
  match s.enclosing with
  | [] => return s
  | candidate :: enclosing => return { s with candidate, enclosing }

def comma (s : Scan) : Option Scan := do
  return (((← s.dropCandidate).push .comma).advance 1).allowKey true

def openMarked (s : Scan) (token : Token) : Option Scan :=
  if s.isFlow then some s else if s.keyAllowed then some (s.openBlock token) else none

def dash (s : Scan) : Option Scan := do
  let s ← (← s.openMarked .blockSequence).dropCandidate
  return ((s.push .dash).advance 1).allowKey true

def markedKey (s : Scan) : Option Scan := do
  let s ← (← s.openMarked .blockMapping).dropCandidate
  return ((s.push .key).advance 1).allowKey !s.isFlow

/-- A colon: what the candidate is, if there is one, is a key. -/
def colon (s : Scan) : Option Scan := do
  match s.candidate with
  | some k =>
    let starts := s.isDeeper k.column
    return ({
      s.push .value with
      keys := ⟨k.token, starts⟩ :: s.keys
      blocks := if starts then k.column :: s.blocks else s.blocks
      candidate := none
      keyAllowed := false } : Scan).advance 1
  | none =>
    let s ← s.openMarked .blockMapping
    return ((s.push .value).advance 1).allowKey !s.isFlow

def name (s : Scan) (token : String → Token) : Option Scan := do
  let s := (← s.saveCandidate).allowKey false
  let (name, next) ← readAnchor s.cursor
  return { s.push (token name) with cursor := next }

def tag (s : Scan) : Option Scan := do
  let s := (← s.saveCandidate).allowKey false
  let (token, next) ← readTag s.isFlow s.cursor
  return { s.push token with cursor := next }

def block (s : Scan) (style : ScalarStyle) : Option Scan := do
  let s := (← s.dropCandidate).allowKey true
  let (text, next) ← Scalar.readBlock (style = .folded) s.blocks.head? (s.cursor.advance 1)
  return { s.push (.scalar (String.ofList text) style) with cursor := next }

def quoted (s : Scan) (quote : Char) : Option Scan := do
  let s := (← s.saveCandidate).allowKey false
  let (text, next) ← Scalar.readQuoted quote s.cursor
  return { s.push (.scalar (String.ofList text) .quoted) with cursor := next }

/-- A key may start behind a plain scalar that ended with its line. -/
def plain (s : Scan) : Option Scan := do
  let s ← s.saveCandidate
  let (text, endsLine, next) ← Scalar.readPlain s.isFlow (s.blocks.head?.elim 0 (· + 1)) s.cursor
  return { s.push (.scalar (String.ofList text) .plain) with
    cursor := next
    keyAllowed := endsLine }

/-- Whether a plain scalar may start with what is ahead, which no other token starts with. -/
def startsPlain (isFlow : Bool) : List Char → Bool
  | [] => false
  | c :: rest =>
    if c = '-' then !rest.head?.any isBlank
    else if c = '?' || c = ':' then !isFlow && !endsWord rest
    else !isIndicator c && !isBlank c

def token (s : Scan) (c : Char) (rest : List Char) : Option Scan :=
  let isMark := endsWord rest
  if c = '%' ∧ s.cursor.column = 0 then s.directive
  else if s.cursor.atDocumentMark then
    s.documentMark (if c = '-' then .documentStart else .documentEnd)
  else if c = '[' then s.openFlow .flowSequence
  else if c = '\x7b' then s.openFlow .flowMapping
  else if c = ']' then s.closeFlow .flowSequenceEnd
  else if c = '\x7d' then s.closeFlow .flowMappingEnd
  else if c = ',' then s.comma
  else if c = '-' ∧ isMark then s.dash
  else if c = '?' ∧ (s.isFlow || isMark) then s.markedKey
  else if c = ':' ∧ (s.isFlow || isMark) then s.colon
  else if c = '*' then s.name .alias
  else if c = '&' then s.name .anchor
  else if c = '!' then s.tag
  else if c = '|' ∧ !s.isFlow then s.block .literal
  else if c = '>' ∧ !s.isFlow then s.block .folded
  else if c = '\'' ∨ c = '"' then s.quoted c
  else if startsPlain s.isFlow (c :: rest) then s.plain
  else none

def finish (s : Scan) : Option Scan := (s.closeBlocks none).dropCandidate

def run : Nat → Scan → Option Scan
  | 0, _ => none
  | fuel + 1, s => do
    let s ← (skipSpace s.cursor.fuel s).dropStale
    let s := s.closeBlocks (some s.cursor.column)
    match s.cursor.rest with
    | [] => s.finish
    | c :: rest => run fuel (← s.token c rest)

def skipByteOrder (s : Scan) : Scan :=
  if s.cursor.rest.head?.any (·.toNat = 0xFEFF) then s.advance 1 else s

end Scan

def scan (text : String) : Option (List Token) := do
  let cs := text.toList
  if !cs.all isReadable then none
  else
    let s ← Scan.run (cs.length + 1) (Scan.start cs).skipByteOrder
    return withKeys (s.keys.mergeSort (·.token ≤ ·.token)) 0 s.tokens.reverse

end ClusterNet.Yaml.Token
