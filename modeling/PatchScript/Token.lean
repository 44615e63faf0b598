import PatchScript.Source
import PatchScript.Text.Escape
import PatchScript.Trie

/-!
# Tokens

The words and symbols of the language, and the tokens a source text is cut
into.  Keywords and symbols have a fixed text; the other tokens carry their
payload.
-/

namespace PatchScript

/-- Words with a fixed meaning. -/
inductive Keyword where
  | varWord | valWord | functionWord | ifWord | elseWord | whileWord | forWord
  | foreachWord | inWord | isWord | deleteWord | returnWord | breakWord
  | continueWord | importWord | asWord | applyWord | thisWord | trueWord
  | falseWord | nullWord
deriving DecidableEq

namespace Keyword

def all : List Keyword :=
  [.varWord, .valWord, .functionWord, .ifWord, .elseWord, .whileWord, .forWord,
    .foreachWord, .inWord, .isWord, .deleteWord, .returnWord, .breakWord,
    .continueWord, .importWord, .asWord, .applyWord, .thisWord, .trueWord,
    .falseWord, .nullWord]

def text : Keyword → String
  | .varWord => "var"
  | .valWord => "val"
  | .functionWord => "function"
  | .ifWord => "if"
  | .elseWord => "else"
  | .whileWord => "while"
  | .forWord => "for"
  | .foreachWord => "foreach"
  | .inWord => "in"
  | .isWord => "is"
  | .deleteWord => "delete"
  | .returnWord => "return"
  | .breakWord => "break"
  | .continueWord => "continue"
  | .importWord => "import"
  | .asWord => "as"
  | .applyWord => "apply"
  | .thisWord => "this"
  | .trueWord => "true"
  | .falseWord => "false"
  | .nullWord => "null"

def ofText? (word : String) : Option Keyword :=
  all.find? fun keyword => keyword.text == word

end Keyword

/-- Operators and delimiters. -/
inductive Symbol where
  | leftParen | rightParen | leftBrace | rightBrace | leftBracket | rightBracket
  | comma | dot | semicolon | colon | atSign
  | plus | minus | star | slash | percent | starStar
  | bang | tilde | ampersand | pipe | caret | shiftLeft | shiftRight
  | less | greater | lessEqual | greaterEqual | equal | notEqual
  | andAnd | orOr
  | assign | plusAssign | minusAssign | starAssign | slashAssign | percentAssign
  | andAssign | orAssign | xorAssign | shiftLeftAssign | shiftRightAssign
  | plusPlus | minusMinus | arrow
deriving DecidableEq

namespace Symbol

def all : List Symbol :=
  [.leftParen, .rightParen, .leftBrace, .rightBrace, .leftBracket, .rightBracket,
    .comma, .dot, .semicolon, .colon, .atSign,
    .plus, .minus, .star, .slash, .percent, .starStar,
    .bang, .tilde, .ampersand, .pipe, .caret, .shiftLeft, .shiftRight,
    .less, .greater, .lessEqual, .greaterEqual, .equal, .notEqual,
    .andAnd, .orOr,
    .assign, .plusAssign, .minusAssign, .starAssign, .slashAssign, .percentAssign,
    .andAssign, .orAssign, .xorAssign, .shiftLeftAssign, .shiftRightAssign,
    .plusPlus, .minusMinus, .arrow]

def text : Symbol → String
  | .leftParen => "("
  | .rightParen => ")"
  | .leftBrace => "\x7b"
  | .rightBrace => "\x7d"
  | .leftBracket => "["
  | .rightBracket => "]"
  | .comma => ","
  | .dot => "."
  | .semicolon => ";"
  | .colon => ":"
  | .atSign => "@"
  | .plus => "+"
  | .minus => "-"
  | .star => "*"
  | .slash => "/"
  | .percent => "%"
  | .starStar => "**"
  | .bang => "!"
  | .tilde => "~"
  | .ampersand => "&"
  | .pipe => "|"
  | .caret => "^"
  | .shiftLeft => "<<"
  | .shiftRight => ">>"
  | .less => "<"
  | .greater => ">"
  | .lessEqual => "<="
  | .greaterEqual => ">="
  | .equal => "=="
  | .notEqual => "!="
  | .andAnd => "&&"
  | .orOr => "||"
  | .assign => "="
  | .plusAssign => "+="
  | .minusAssign => "-="
  | .starAssign => "*="
  | .slashAssign => "/="
  | .percentAssign => "%="
  | .andAssign => "&="
  | .orAssign => "|="
  | .xorAssign => "^="
  | .shiftLeftAssign => "<<="
  | .shiftRightAssign => ">>="
  | .plusPlus => "++"
  | .minusMinus => "--"
  | .arrow => "->"

/-- The texts of all symbols. -/
def table : List (List Char × Symbol) :=
  all.map fun symbol => (symbol.text.toList, symbol)

/-- All symbols, arranged for longest match. -/
def trie : Trie Symbol :=
  Trie.ofTable table

end Symbol

/-- What a token is. -/
inductive TokenKind where
  | number (value : Float)
  /-- A text in double quotes. -/
  | string (value : String)
  /-- A name that is no keyword, or any text in single quotes. -/
  | word (name : String)
  /-- A variable, without its dollar sign. -/
  | variable (name : String)
  | keyword (reserved : Keyword)
  | symbol (operator : Symbol)
  | endOfFile

namespace TokenKind

/-- The fixed text of keywords and symbols. -/
def fixedText? : TokenKind → Option String
  | .keyword reserved => some reserved.text
  | .symbol operator => some operator.text
  | _ => none

/-- How diagnostics name a token. -/
def describe : TokenKind → String
  | .number value => Decimal.plainText value
  | .string value => Text.quote value
  | .word name => name
  | .variable name => "$" ++ name
  | .keyword reserved => "'" ++ reserved.text ++ "'"
  | .symbol operator => "'" ++ operator.text ++ "'"
  | .endOfFile => "end of file"

end TokenKind

/-- A token and where it stands. -/
structure Token where
  kind : TokenKind
  span : Span

end PatchScript
