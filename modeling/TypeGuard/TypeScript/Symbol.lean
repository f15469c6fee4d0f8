namespace TypeGuard.TypeScript

inductive Symbol where
  | braceOpen | braceClose | parenOpen | parenClose | bracketOpen | bracketClose
  | semicolon | comma | colon | question | dot | ellipsis | arrow | hash | atSign | backquote
  | less | lessEqual | greater | greaterEqual
  | equal | notEqual | identical | notIdentical
  | plus | minus | star | slash | percent | power | increment | decrement
  | shiftLeft | shiftRight | shiftRightZero
  | ampersand | bar | caret | bang | tilde | andAnd | orOr | coalesce
  | assign | plusAssign | minusAssign | starAssign | slashAssign | percentAssign | powerAssign
  | shiftLeftAssign | shiftRightAssign | shiftRightZeroAssign
  | ampersandAssign | barAssign | caretAssign | andAndAssign | orOrAssign | coalesceAssign
deriving Repr, DecidableEq

namespace Symbol

def chars : Symbol → List Char
  | braceOpen => ['\x7b'] | braceClose => ['\x7d'] | parenOpen => ['('] | parenClose => [')']
  | bracketOpen => ['['] | bracketClose => [']'] | semicolon => [';'] | comma => [',']
  | colon => [':'] | question => ['?'] | dot => ['.'] | ellipsis => ['.', '.', '.']
  | arrow => ['=', '>'] | hash => ['#'] | atSign => ['@'] | backquote => ['\x60']
  | less => ['<'] | lessEqual => ['<', '='] | greater => ['>'] | greaterEqual => ['>', '=']
  | equal => ['=', '='] | notEqual => ['!', '='] | identical => ['=', '=', '=']
  | notIdentical => ['!', '=', '='] | plus => ['+'] | minus => ['-'] | star => ['*']
  | slash => ['/'] | percent => ['%'] | power => ['*', '*'] | increment => ['+', '+']
  | decrement => ['-', '-'] | shiftLeft => ['<', '<'] | shiftRight => ['>', '>']
  | shiftRightZero => ['>', '>', '>'] | ampersand => ['&'] | bar => ['|'] | caret => ['^']
  | bang => ['!'] | tilde => ['~'] | andAnd => ['&', '&'] | orOr => ['|', '|']
  | coalesce => ['?', '?'] | assign => ['='] | plusAssign => ['+', '=']
  | minusAssign => ['-', '='] | starAssign => ['*', '='] | slashAssign => ['/', '=']
  | percentAssign => ['%', '='] | powerAssign => ['*', '*', '=']
  | shiftLeftAssign => ['<', '<', '='] | shiftRightAssign => ['>', '>', '=']
  | shiftRightZeroAssign => ['>', '>', '>', '='] | ampersandAssign => ['&', '=']
  | barAssign => ['|', '='] | caretAssign => ['^', '='] | andAndAssign => ['&', '&', '=']
  | orOrAssign => ['|', '|', '='] | coalesceAssign => ['?', '?', '=']

def text (s : Symbol) : String :=
  String.ofList s.chars

/-- All symbols, a longer one before each symbol that it begins with. -/
def all : List Symbol := [
  braceOpen, braceClose, parenOpen, parenClose, bracketOpen, bracketClose, semicolon, comma,
  colon, ellipsis, dot, hash, atSign, backquote, arrow,
  shiftRightZeroAssign, shiftRightZero, shiftRightAssign, shiftRight, greaterEqual, greater,
  shiftLeftAssign, shiftLeft, lessEqual, less,
  identical, equal, assign, notIdentical, notEqual, bang,
  plusAssign, increment, plus, minusAssign, decrement, minus,
  powerAssign, power, starAssign, star, slashAssign, slash, percentAssign, percent,
  andAndAssign, andAnd, ampersandAssign, ampersand, orOrAssign, orOr, barAssign, bar,
  caretAssign, caret, tilde, coalesceAssign, coalesce, question]

def longest? (cs : List Char) : Option Symbol :=
  all.find? fun s => s.chars.isPrefixOf cs

theorem head?_of_longest? {cs : List Char} {s : Symbol} (h : longest? cs = some s) :
    cs.head? = s.chars.head? := by
  have hp : s.chars.isPrefixOf cs = true := by
    simpa using List.find?_some h
  obtain ⟨t, ht⟩ := List.isPrefixOf_iff_prefix.1 hp
  subst ht
  cases s <;> rfl

/-- Precedence of a binary operator; operators that bind tighter have a greater one. -/
def precedence? : Symbol → Option Nat
  | orOr | coalesce => some 1
  | andAnd => some 2
  | bar => some 3
  | caret => some 4
  | ampersand => some 5
  | equal | notEqual | identical | notIdentical => some 6
  | less | lessEqual | greater | greaterEqual => some 7
  | shiftLeft | shiftRight | shiftRightZero => some 8
  | plus | minus => some 9
  | star | slash | percent => some 10
  | power => some 11
  | _ => none

def assigns : Symbol → Bool
  | assign | plusAssign | minusAssign | starAssign | slashAssign | percentAssign | powerAssign
  | shiftLeftAssign | shiftRightAssign | shiftRightZeroAssign | ampersandAssign | barAssign
  | caretAssign | andAndAssign | orOrAssign | coalesceAssign => true
  | _ => false

end Symbol

end TypeGuard.TypeScript
