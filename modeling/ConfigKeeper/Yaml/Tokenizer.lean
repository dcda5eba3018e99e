import ConfigKeeper.Yaml.Token
import ConfigKeeper.Yaml.Plain
import ConfigKeeper.Yaml.Quoted
import ConfigKeeper.Yaml.BlockScalar

namespace ConfigKeeper.Yaml

/-- Something that becomes a mapping key if a colon follows. -/
structure PendingKey where
  /-- It stands where nothing but a key can stand. -/
  required : Bool
  /-- How many tokens come before it. -/
  position : Nat
  index : Nat
  line : Nat
  column : Nat

/-- In `keys` stands the pending key of every open flow collection, innermost first, and last the one
of the block context; in `indents` the columns of the open block collections; in `tokens` the newest
token first. -/
structure Tokenizer where
  cursor : Cursor
  keys : List (Option PendingKey) := [none]
  indents : List Nat := []
  keyAllowed : Bool := true
  tokens : List Token := []

namespace Tokenizer

def inFlow (t : Tokenizer) : Bool := t.keys.length > 1

def emit (t : Tokenizer) (token : Token) (next : Cursor) : Tokenizer :=
  { t with tokens := token :: t.tokens, cursor := next }

def setKey (t : Tokenizer) (key : Option PendingKey) : Tokenizer :=
  { t with keys := key :: t.keys.tail }

def pending (t : Tokenizer) : Option PendingKey := t.keys.head?.join

def dropKey (t : Tokenizer) : Option Tokenizer :=
  if t.pending.any (·.required) then none else some (t.setKey none)

def allowKey (t : Tokenizer) (allowed : Bool) : Tokenizer := { t with keyAllowed := allowed }

def noteKey (t : Tokenizer) : Option Tokenizer :=
  if t.keyAllowed then do
    let t ← t.dropKey
    let c := t.cursor
    return t.setKey (some {
      required := !t.inFlow && t.indents.head? == some c.column
      position := t.tokens.length
      index := c.index
      line := c.line
      column := c.column })
  else some t

/-- A key and its colon stand in one line and within 1024 characters. -/
def isStale (c : Cursor) (key : PendingKey) : Bool :=
  key.line < c.line || key.index + 1024 < c.index

def dropStaleKeys (t : Tokenizer) : Option Tokenizer :=
  if t.keys.any (·.any fun k ↦ k.required && isStale t.cursor k) then none
  else some { t with keys := t.keys.map (·.filter fun k ↦ !isStale t.cursor k) }

/-- Puts tokens in before the newest ones so that `position` tokens come before them. -/
def insertAt (position : Nat) (added : List Token) (tokens : List Token) : List Token :=
  let newer := tokens.length - position
  tokens.take newer ++ added.reverse ++ tokens.drop newer

def indentTo (t : Tokenizer) (column position : Nat) (opening : Token) : Tokenizer :=
  if !t.inFlow && t.indents.head?.all (· < column) then
    { t with indents := column :: t.indents, tokens := insertAt position [opening] t.tokens }
  else t

/-- Closes the block collections that stand right of `column`; all of them if there is none. -/
def closeBlocks (column : Option Nat) : List Nat → List Token → List Nat × List Token
  | [], tokens => ([], tokens)
  | indent :: rest, tokens =>
    if column.all (· < indent) then closeBlocks column rest (.blockEnd :: tokens)
    else (indent :: rest, tokens)

def outdentTo (t : Tokenizer) (column : Option Nat) : Tokenizer :=
  if t.inFlow then t
  else
    let (indents, tokens) := closeBlocks column t.indents t.tokens
    { t with indents, tokens }

/-- Passes blanks, comments and line breaks. Tabs count as blanks where they cannot be mistaken for
indentation, and a line break lets a key follow. -/
def skipGap : Nat → Tokenizer → Tokenizer
  | 0, t => t
  | fuel + 1, t =>
    let c := if t.cursor.index == 0 && t.cursor.sees isMark then t.cursor.skip else t.cursor
    let c := c.skipWhile fun x ↦ x == ' ' || (x == '\t' && (t.inFlow || !t.keyAllowed))
    let c := c.skipComment
    if c.sees isBreak then
      skipGap fuel { t with cursor := c.skipBreak, keyAllowed := t.keyAllowed || !t.inFlow }
    else { t with cursor := c }

def openFlow (t : Tokenizer) (token : Token) : Option Tokenizer := do
  let t ← t.noteKey
  let t := t.emit token t.cursor.skip
  return { t with keys := none :: t.keys, keyAllowed := true }

def closeFlow (t : Tokenizer) (token : Token) : Option Tokenizer := do
  let t ← t.dropKey
  let t := if t.inFlow then { t with keys := t.keys.tail } else t
  return (t.emit token t.cursor.skip).allowKey false

def blockEntry (t : Tokenizer) : Option Tokenizer := do
  if !t.inFlow && !t.keyAllowed then none
  let t := t.indentTo t.cursor.column t.tokens.length .blockSequence
  let t ← t.dropKey
  return (t.emit .entry t.cursor.skip).allowKey true

def explicitKey (t : Tokenizer) : Option Tokenizer := do
  if !t.inFlow && !t.keyAllowed then none
  let t := t.indentTo t.cursor.column t.tokens.length .blockMapping
  let t ← t.dropKey
  return (t.emit .key t.cursor.skip).allowKey (!t.inFlow)

def valueMark (t : Tokenizer) : Option Tokenizer :=
  match t.pending with
  | some k =>
    let t := { t with tokens := insertAt k.position [.key] t.tokens }
    let t := (t.indentTo k.column k.position .blockMapping).setKey none
    some ((t.emit .value t.cursor.skip).allowKey false)
  | none =>
    if !t.inFlow && !t.keyAllowed then none
    else
      let t := t.indentTo t.cursor.column t.tokens.length .blockMapping
      some ((t.emit .value t.cursor.skip).allowKey (!t.inFlow))

def plain (t : Tokenizer) : Option Tokenizer := do
  let t ← t.noteKey
  let indent := t.indents.head?.elim 0 (· + 1)
  let (text, broken, next) ←
    Plain.scan t.inFlow indent (t.cursor.rest.length + 1) [] {} t.cursor
  return (t.emit (.scalar true (String.ofList text)) next).allowKey broken

def quoted (t : Tokenizer) (quote : Char) : Option Tokenizer := do
  let t ← t.noteKey
  let (text, next) ← Quoted.scan quote (t.cursor.rest.length + 1) [] t.cursor.skip
  return (t.emit (.scalar false (String.ofList text)) next).allowKey false

def blockScalar (t : Tokenizer) (literal : Bool) : Option Tokenizer := do
  let t ← t.dropKey
  let (text, next) ← BlockScalar.scan literal t.indents.head? t.cursor.skip
  return (t.emit (.scalar false (String.ofList text)) next).allowKey true

def atMargin (t : Tokenizer) (token : Token) (next : Cursor) : Option Tokenizer := do
  let t ← (t.outdentTo none).dropKey
  return (t.emit token next).allowKey false

def property (t : Tokenizer) (token : Token) (next : Cursor) : Option Tokenizer := do
  let t ← t.noteKey
  return (t.emit token next).allowKey false

def token (t : Tokenizer) (x : Char) : Option Tokenizer :=
  let c := t.cursor
  let apart := c.seesOrEndsAt 1 isGap
  if c.column == 0 && x == '%' then do
    let (token, next) ← Token.directive? c
    t.atMargin token next
  else if c.atDocumentMark then
    t.atMargin (if x == '-' then .documentStart else .documentEnd) (c.skipN 3)
  else if x == '[' then t.openFlow .flowSequence
  else if x == '{' then t.openFlow .flowMapping
  else if x == ']' then t.closeFlow .flowSequenceEnd
  else if x == '}' then t.closeFlow .flowMappingEnd
  else if x == ',' then do
    let t ← t.dropKey
    return (t.emit .flowEntry c.skip).allowKey true
  else if x == '-' && apart then t.blockEntry
  else if x == '?' && (t.inFlow || apart) then t.explicitKey
  else if x == ':' && (t.inFlow || apart) then t.valueMark
  else if x == '*' then do
    let (name, next) ← Token.name? c
    t.property (.alias name) next
  else if x == '&' then do
    let (name, next) ← Token.name? c
    t.property (.anchor name) next
  else if x == '!' then do
    let (token, next) ← Token.tag? t.inFlow c
    t.property token next
  else if x == '|' && !t.inFlow then t.blockScalar true
  else if x == '>' && !t.inFlow then t.blockScalar false
  else if x == '\'' || x == '"' then t.quoted x
  else if !(isGap x || isIndicator x) ||
      (x == '-' && !(c.peekAt 1).any isBlank) ||
      (!t.inFlow && (x == '?' || x == ':') && !apart) then t.plain
  else none

def run : Nat → Tokenizer → Option (List Token)
  | 0, _ => none
  | fuel + 1, t => do
    let t ← (t.skipGap (t.cursor.rest.length + 1)).dropStaleKeys
    let t := t.outdentTo (some t.cursor.column)
    match t.cursor.peek with
    | some x =>
      let t ← t.token x
      run fuel t
    | none =>
      let t ← (t.outdentTo none).dropKey
      return t.tokens.reverse

end Tokenizer

def tokens? (text : List Char) : Option (List Token) :=
  if text.all isAllowed then Tokenizer.run (text.length + 1) { cursor := { rest := text } } else none

end ConfigKeeper.Yaml
