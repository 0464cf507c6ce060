/-
# Theory.Shell -- how a POSIX shell reads a command line

The shell cuts its input into tokens: words, operators and newlines.  A character of a
word is plain, or quoted, or starts an expansion; the lexer notes where an expansion
starts and does not evaluate it.  `command` is the reading of a line that is one simple
command whose words stand for themselves: nothing is expanded, matched against files,
assigned or redirected, and no word is a reserved word where the shell looks for one.

* `tokenize_bare`: words of bare characters, separated by blanks, are cut into exactly
  these words;
* `command_bare`: and they are the words of the command.
-/
import KubeRayBatch.Theory.TextLines
import Mathlib.Data.List.Basic

namespace KubeRayBatch.Theory.Shell

set_option autoImplicit false

/-! ## Tokens -/

inductive Piece where
  | plain (c : Char)
  /-- Quoted by a backslash or inside quotes. -/
  | quoted (c : Char)
  /-- A dollar sign or a backquote that starts an expansion. -/
  | expands (c : Char)
  deriving DecidableEq, Repr

inductive Token where
  | word (pieces : List Piece)
  | operator (op : List Char)
  | newline
  deriving DecidableEq, Repr

def operators : List (List Char) :=
  [['&'], ['|'], [';'], ['<'], ['>'], ['('], [')'], ['&', '&'], ['|', '|'], [';', ';'], ['<', '<'],
    ['>', '>'], ['<', '&'], ['>', '&'], ['<', '>'], ['<', '<', '-'], ['>', '|']]

def isBlank (c : Char) : Bool := c == ' ' || c == '\t'

/-- Where the lexer is. -/
inductive State where
  | between
  | word (pieces : List Piece)
  /-- After a backslash, outside quotes. -/
  | escaped (pieces : Option (List Piece))
  | single (pieces : List Piece)
  | double (pieces : List Piece)
  | doubleEscaped (pieces : List Piece)
  | operator (op : List Char)
  | comment

/-- A character outside quotes, with the pieces of the word it is in, if it is in one. -/
def unquoted (pieces : Option (List Piece)) (c : Char) : List Token × State :=
  let ended := (pieces.map Token.word).toList
  let before := pieces.getD []
  if c == '\n' then (ended ++ [.newline], .between)
  else if isBlank c then (ended, .between)
  else if [c] ∈ operators then (ended, .operator [c])
  else if c == '\\' then ([], .escaped pieces)
  else if c == '\'' then ([], .single before)
  else if c == '"' then ([], .double before)
  else if c == '$' || c == '\x60' then ([], .word (before ++ [.expands c]))
  else if c == '#' && pieces.isNone then ([], .comment)
  else ([], .word (before ++ [.plain c]))

/-- The tokens that a character completes, and where the lexer is after it. -/
def State.next : State → Char → List Token × State
  | .between, c => unquoted none c
  | .word pieces, c => unquoted (some pieces) c
  | .escaped pieces, c =>
      -- a backslash before a newline continues the line
      if c == '\n' then ([], (pieces.map State.word).getD .between)
      else ([], .word (pieces.getD [] ++ [.quoted c]))
  | .single pieces, c =>
      if c == '\'' then ([], .word pieces) else ([], .single (pieces ++ [.quoted c]))
  | .double pieces, c =>
      if c == '"' then ([], .word pieces)
      else if c == '\\' then ([], .doubleEscaped pieces)
      else if c == '$' || c == '\x60' then ([], .double (pieces ++ [.expands c]))
      else ([], .double (pieces ++ [.quoted c]))
  | .doubleEscaped pieces, c =>
      if c == '\n' then ([], .double pieces)
      else if ['$', '\x60', '"', '\\'].contains c then ([], .double (pieces ++ [.quoted c]))
      else ([], .double (pieces ++ [.quoted '\\', .quoted c]))
  | .operator op, c =>
      if op ++ [c] ∈ operators then ([], .operator (op ++ [c]))
      else
        let (tokens, state) := unquoted none c
        (.operator op :: tokens, state)
  | .comment, c => if c == '\n' then ([.newline], .between) else ([], .comment)

/-- The end of the input; an open quote is an error. -/
def State.finish : State → Option (List Token)
  | .between | .comment => some []
  | .word pieces => some [.word pieces]
  | .operator op => some [.operator op]
  | .escaped _ | .single _ | .double _ | .doubleEscaped _ => none

def lex : State → List Char → Option (List Token)
  | state, [] => state.finish
  | state, c :: cs => (lex (state.next c).2 cs).map ((state.next c).1 ++ ·)

def tokenize (line : List Char) : Option (List Token) := lex .between line

/-! ## One simple command -/

/-- The characters of a pattern, of a brace expansion and of a tilde prefix. -/
def isPattern (c : Char) : Bool := ['*', '?', '[', '\x7b', '~'].contains c

/-- The text of a piece that stands for itself. -/
def Piece.literal : Piece → Option Char
  | .plain c => if isPattern c then none else some c
  | .quoted c => some c
  | .expands _ => none

def reservedWords : List (List Char) :=
  ["!", "\x7b", "\x7d", "case", "do", "done", "elif", "else", "esac", "fi", "for", "if", "in", "then",
    "until", "while"].map String.toList

/-- A word that may be read as `name=value`. -/
def isAssignment (pieces : List Piece) : Bool :=
  pieces.contains (.plain '=')

/-- The pieces of a word token. -/
def Token.pieces : Token → Option (List Piece)
  | .word pieces => some pieces
  | _ => none

/-- The words of a line that is one simple command and whose words stand for themselves. -/
def command (tokens : List Token) : Option (List (List Char)) :=
  match tokens.mapM Token.pieces with
  | some (first :: rest) =>
      if isAssignment first || reservedWords.any (fun word => first == word.map .plain) then none
      else (first :: rest).mapM fun pieces => pieces.mapM Piece.literal
  | _ => none

/-! ## Bare words -/

/-- The characters that mean something to the shell, in some position. -/
def specials : List Char :=
  [' ', '\t', '\n', '&', '|', ';', '<', '>', '(', ')', '\\', '\'', '"', '$', '\x60', '#', '*',
    '?', '[', '\x7b', '\x7d', '~', '=', '!']

def Bare (word : List Char) : Prop := word ≠ [] ∧ ∀ c ∈ word, c ∉ specials

/-- Words with one blank between them. -/
def joined : List (List Char) → List Char
  | [] => []
  | [word] => word
  | word :: words => word ++ ' ' :: joined words

theorem unquoted_bare (pieces : Option (List Piece)) {c : Char} (bare : c ∉ specials) :
    unquoted pieces c = ([], .word (pieces.getD [] ++ [.plain c])) := by
  simp only [specials, List.mem_cons, List.not_mem_nil, or_false, not_or] at bare
  simp [unquoted, isBlank, operators, bare]

/-- The rest of a bare word that has begun. -/
theorem lex_word (pieces : List Piece) {word : List Char} (bare : ∀ c ∈ word, c ∉ specials)
    (rest : List Char) :
    lex (.word pieces) (word ++ rest) = lex (.word (pieces ++ word.map .plain)) rest := by
  induction word generalizing pieces with
  | nil => simp
  | cons c word ih =>
      have one : State.next (.word pieces) c = ([], .word (pieces ++ [.plain c])) :=
        unquoted_bare (some pieces) (bare c List.mem_cons_self)
      have later := ih (pieces ++ [.plain c]) fun d mem => bare d (List.mem_cons_of_mem c mem)
      simp only [List.cons_append, lex, one, later, List.map_cons, List.append_assoc]
      simp

/-- A bare word, from a blank on. -/
theorem lex_between {word : List Char} (bare : Bare word) (rest : List Char) :
    lex .between (word ++ rest) = lex (.word (word.map .plain)) rest := by
  obtain ⟨nonempty, plain⟩ := bare
  obtain ⟨c, tail, rfl⟩ := List.exists_cons_of_ne_nil nonempty
  have one : State.next .between c = ([], .word [.plain c]) :=
    unquoted_bare none (plain c List.mem_cons_self)
  have later := lex_word [.plain c] (fun d mem => plain d (List.mem_cons_of_mem c mem)) rest
  simp only [List.cons_append, lex, one, later]
  simp

/-- The token of a bare word. -/
def bareToken (word : List Char) : Token := .word (word.map .plain)

/-- **Bare words separated by blanks are cut into these words.** -/
theorem tokenize_bare {words : List (List Char)} (bare : ∀ word ∈ words, Bare word) :
    tokenize (joined words) = some (words.map bareToken) := by
  unfold tokenize
  induction words with
  | nil => rfl
  | cons word words ih =>
      have first := bare word List.mem_cons_self
      have rest := ih fun later mem => bare later (List.mem_cons_of_mem word mem)
      cases words with
      | nil =>
          have whole := lex_between first []
          rw [List.append_nil] at whole
          rw [joined, whole]
          rfl
      | cons second words =>
          have blank : State.next (.word (word.map .plain)) ' ' = ([bareToken word], .between) := rfl
          have split : joined (word :: second :: words) = word ++ ' ' :: joined (second :: words) := rfl
          rw [split, lex_between first]
          simp only [lex, blank, rest]
          rfl

theorem literal_bare {c : Char} (bare : c ∉ specials) : (Piece.plain c).literal = some c := by
  simp only [specials, List.mem_cons, List.not_mem_nil, or_false, not_or] at bare
  simp [Piece.literal, isPattern, bare]

theorem mapM_literal {word : List Char} (bare : ∀ c ∈ word, c ∉ specials) :
    (word.map Piece.plain).mapM Piece.literal = some word := by
  have literal : (word.map Piece.plain).mapM Piece.literal = some (word.map id) :=
    TextLines.mapM_map_some fun c mem => literal_bare (bare c mem)
  rwa [List.map_id] at literal

/-- **Bare words are the words of the command**, unless the first one is reserved. -/
theorem command_bare {first : List Char} {words : List (List Char)}
    (bare : ∀ word ∈ first :: words, Bare word) (notReserved : first ∉ reservedWords) :
    command ((first :: words).map bareToken) = some (first :: words) := by
  have pieces : ((first :: words).map bareToken).mapM Token.pieces =
      some ((first :: words).map (List.map Piece.plain)) :=
    TextLines.mapM_map_some fun word _ => rfl
  have literal : ((first :: words).map (List.map Piece.plain)).mapM
      (fun pieces => pieces.mapM Piece.literal) = some ((first :: words).map id) :=
    TextLines.mapM_map_some fun word mem => mapM_literal (bare word mem).2
  have notAssignment : isAssignment (first.map .plain) = false := by
    refine Bool.eq_false_iff.2 fun contains => ?_
    obtain ⟨c, mem, same⟩ := List.mem_map.1 (List.contains_iff_mem.1 contains)
    cases same
    exact (bare first List.mem_cons_self).2 '=' mem (by decide)
  have ordinary : reservedWords.any (fun word => first.map Piece.plain == word.map .plain) = false := by
    refine Bool.eq_false_iff.2 fun reserved => notReserved ?_
    obtain ⟨word, mem, same⟩ := List.any_eq_true.1 reserved
    have injective : Function.Injective Piece.plain := fun c d same => by cases same; rfl
    rw [injective.list_map (beq_iff_eq.1 same)]
    exact mem
  unfold command
  rw [pieces]
  simp only [List.map_cons, notAssignment, ordinary, Bool.or_self, Bool.false_eq_true, if_false]
  simpa using literal

end KubeRayBatch.Theory.Shell
