/-! What can be wrong with a source text, and how it is worded.

A fault is a cause; `Fault.message` holds all the wording. A `SyntaxError` is a fault at a line, or
a fault of the text as a whole.
-/

set_option autoImplicit false

namespace Refactory.Source

inductive HeaderMark where
  | colon
  | opening
  deriving DecidableEq, Repr

def HeaderMark.text : HeaderMark → String
  | .colon => ":"
  | .opening => "("

inductive BlockWord where
  | ifWord
  | elifWord
  | elseWord
  | forWord
  | whileWord
  | withWord
  | tryWord
  | exceptWord
  | exceptGroupWord
  | finallyWord
  | matchWord
  | caseWord
  deriving DecidableEq, Repr

def BlockWord.text : BlockWord → String
  | .ifWord => "if"
  | .elifWord => "elif"
  | .elseWord => "else"
  | .forWord => "for"
  | .whileWord => "while"
  | .withWord => "with"
  | .tryWord => "try"
  | .exceptWord => "except"
  | .exceptGroupWord => "except*"
  | .finallyWord => "finally"
  | .matchWord => "match"
  | .caseWord => "case"

inductive BlockOwner where
  | function
  | classBody
  | statement (word : BlockWord)
  deriving DecidableEq, Repr

def BlockOwner.text : BlockOwner → String
  | .function => "function definition"
  | .classBody => "class definition"
  | .statement word => "'" ++ word.text ++ "' statement"

inductive NumberKind where
  | decimal
  | hexadecimal
  | octal
  | binary
  | imaginary
  deriving DecidableEq, Repr

def NumberKind.text : NumberKind → String
  | .decimal => "decimal"
  | .hexadecimal => "hexadecimal"
  | .octal => "octal"
  | .binary => "binary"
  | .imaginary => "imaginary"

inductive ComplexPart where
  | real
  | imaginary
  deriving DecidableEq, Repr

def ComplexPart.text : ComplexPart → String
  | .real => "real"
  | .imaginary => "imaginary"

inductive FormerStatement where
  | print
  | exec
  deriving DecidableEq, Repr

def FormerStatement.text : FormerStatement → String
  | .print => "print"
  | .exec => "exec"

inductive ExprKind where
  | noneConstant
  | trueConstant
  | falseConstant
  | ellipsis
  | literal
  | name
  | attribute
  | subscript
  | starred
  | list
  | tuple
  | slice
  | expression
  | comparison
  | conditional
  | lambda
  | call
  | named
  | dict
  | set
  | listComp
  | setComp
  | dictComp
  | generator
  | await
  | yield
  | formatted
  deriving DecidableEq, Repr

def ExprKind.text : ExprKind → String
  | .noneConstant => "None"
  | .trueConstant => "True"
  | .falseConstant => "False"
  | .ellipsis => "ellipsis"
  | .literal => "literal"
  | .name => "name"
  | .attribute => "attribute"
  | .subscript => "subscript"
  | .starred => "starred"
  | .list => "list"
  | .tuple => "tuple"
  | .slice => "slice"
  | .expression => "expression"
  | .comparison => "comparison"
  | .conditional => "conditional expression"
  | .lambda => "lambda"
  | .call => "function call"
  | .named => "named expression"
  | .dict => "dict literal"
  | .set => "set display"
  | .listComp => "list comprehension"
  | .setComp => "set comprehension"
  | .dictComp => "dict comprehension"
  | .generator => "generator expression"
  | .await => "await expression"
  | .yield => "yield expression"
  | .formatted => "f-string expression"

inductive EscapeReason where
  | truncatedByte
  | truncatedUnit
  | truncatedPoint
  | illegalCharacter
  | malformedName
  | unknownName
  deriving DecidableEq, Repr

def EscapeReason.text : EscapeReason → String
  | .truncatedByte => "truncated \\xXX escape"
  | .truncatedUnit => "truncated \\uXXXX escape"
  | .truncatedPoint => "truncated \\UXXXXXXXX escape"
  | .illegalCharacter => "illegal Unicode character"
  | .malformedName => "malformed \\N character escape"
  | .unknownName => "unknown Unicode character name"

/-- A broken escape of a text or of bytes, by where it stands. -/
inductive EscapeFault where
  | undecodable (reason : EscapeReason) (first last : Nat)
  | invalidByte (position : Nat)
  deriving DecidableEq, Repr

def EscapeFault.text : EscapeFault → String
  | .undecodable reason first last =>
      "(unicode error) 'unicodeescape' codec can't decode bytes in position " ++ toString first ++ "-" ++
        toString last ++ ": " ++ reason.text
  | .invalidByte position => "(value error) invalid \\x escape at position " ++ toString position

inductive FieldFault where
  | singleBrace
  | expectingBrace
  | unterminatedString
  | backslash
  | comment
  | unmatched (bracket : Char)
  | mismatched (closing opening : Char)
  | tooManyBrackets
  | invalidConversion
  | tooDeep
  | empty
  | emptyBefore (sign : Char)
  deriving DecidableEq, Repr

def FieldFault.text : FieldFault → String
  | .singleBrace => "f-string: single '\x7d' is not allowed"
  | .expectingBrace => "f-string: expecting '\x7d'"
  | .unterminatedString => "f-string: unterminated string"
  | .backslash => "f-string expression part cannot include a backslash"
  | .comment => "f-string expression part cannot include '#'"
  | .unmatched bracket => "f-string: unmatched '" ++ bracket.toString ++ "'"
  | .mismatched closing opening => "f-string: closing parenthesis '" ++ closing.toString ++
      "' does not match opening parenthesis '" ++ opening.toString ++ "'"
  | .tooManyBrackets => "f-string: too many nested parenthesis"
  | .invalidConversion => "f-string: invalid conversion character: expected 's', 'r', or 'a'"
  | .tooDeep => "f-string: expressions nested too deeply"
  | .empty => "f-string: empty expression not allowed"
  | .emptyBefore sign => "f-string: expression required before '" ++ sign.toString ++ "'"

inductive DisplayFault where
  | starredAlone
  | doubleStarredAlone
  | unpackedElement
  | unpackedEntry
  | bareElements
  | starredValue
  | missingValue
  | missingColon
  deriving DecidableEq, Repr

def DisplayFault.text : DisplayFault → String
  | .starredAlone => "cannot use starred expression here"
  | .doubleStarredAlone => "cannot use double starred expression here"
  | .unpackedElement => "iterable unpacking cannot be used in comprehension"
  | .unpackedEntry => "dict unpacking cannot be used in dict comprehension"
  | .bareElements => "did you forget parentheses around the comprehension target?"
  | .starredValue => "cannot use a starred expression in a dictionary value"
  | .missingValue => "expression expected after dictionary key and ':'"
  | .missingColon => "':' expected after dictionary key"

inductive ParameterFault where
  | defaultOrder
  | missingDefault
  | parenthesised
  | lambdaParenthesised
  | slashFirst
  | slashTwice
  | slashAfterStar
  | slashBesideStar
  | starTwice
  | bareStar
  | restDefault
  | mappingDefault
  | afterMapping
  deriving DecidableEq, Repr

def ParameterFault.text : ParameterFault → String
  | .defaultOrder => "non-default argument follows default argument"
  | .missingDefault => "expected default value expression"
  | .parenthesised => "Function parameters cannot be parenthesized"
  | .lambdaParenthesised => "Lambda expression parameters cannot be parenthesized"
  | .slashFirst => "at least one argument must precede /"
  | .slashTwice => "/ may appear only once"
  | .slashAfterStar => "/ must be ahead of *"
  | .slashBesideStar => "expected comma between / and *"
  | .starTwice => "* argument may appear only once"
  | .bareStar => "named arguments must follow bare *"
  | .restDefault => "var-positional argument cannot have default value"
  | .mappingDefault => "var-keyword argument cannot have default value"
  | .afterMapping => "arguments cannot follow var-keyword argument"

inductive ArgumentFault where
  | afterKeyword
  | afterUnpacking
  | unpackingOrder
  | bareGenerator
  | keywordExpression
  deriving DecidableEq, Repr

def ArgumentFault.text : ArgumentFault → String
  | .afterKeyword => "positional argument follows keyword argument"
  | .afterUnpacking => "positional argument follows keyword argument unpacking"
  | .unpackingOrder => "iterable argument unpacking follows keyword argument unpacking"
  | .bareGenerator => "Generator expression must be parenthesized"
  | .keywordExpression => "expression cannot contain assignment, perhaps you meant \"==\"?"

inductive HandlerFault where
  | missing
  | mixed
  | severalErrors
  | missingErrors
  deriving DecidableEq, Repr

def HandlerFault.text : HandlerFault → String
  | .missing => "expected 'except' or 'finally' block"
  | .mixed => "cannot have both 'except' and 'except*' on the same 'try'"
  | .severalErrors => "multiple exception types must be parenthesized"
  | .missingErrors => "expected one or more exception types"

inductive PatternFault where
  | number (part : ComplexPart)
  | wildcardTarget
  | invalidTarget
  | positionalOrder
  deriving DecidableEq, Repr

def PatternFault.text : PatternFault → String
  | .number part => part.text ++ " number required in complex literal"
  | .wildcardTarget => "cannot use '_' as a target"
  | .invalidTarget => "invalid pattern target"
  | .positionalOrder => "positional patterns follow keyword patterns"

inductive Fault where
  | invalidSyntax
  | nullBytes
  | expected (mark : HeaderMark)
  | neverClosed (bracket : Char)
  | unmatched (bracket : Char)
  | mismatched (closing opening : Char) (openedOn : Option Nat)
  | tooManyBrackets
  | unexpectedIndent
  | unexpectedUnindent
  | unindentMismatch
  | inconsistentTabs
  | tooDeep
  | missingBlock (owner : BlockOwner) (line : Nat)
  | unterminatedString (detected : Nat)
  | unterminatedBlockString (detected : Nat)
  | invalidNumber (kind : NumberKind)
  | invalidDigit (digit : Char) (kind : NumberKind)
  | leadingZeros
  | tooManyDigits (count : Nat)
  | invalidCharacter (c : Char)
  | unprintableCharacter (c : Char)
  | unexpectedEnd
  | afterContinuation
  | missingParentheses (callee : FormerStatement)
  | missingComma
  | missingElse
  | trailingComma
  | assignmentForComparison
  | notAssignableHere (what : ExprKind)
  | notAssignable (what : ExprKind)
  | notDeletable (what : ExprKind)
  | yieldAssigned
  | notCombinable (what : ExprKind)
  | notAnnotatable
  | notSingle (what : ExprKind)
  | walrusTarget (what : ExprKind)
  | mixedLiterals
  | nonAsciiBytes
  | badEscape (detail : EscapeFault)
  | badField (detail : FieldFault)
  | badDisplay (detail : DisplayFault)
  | badParameters (detail : ParameterFault)
  | badArguments (detail : ArgumentFault)
  | badHandlers (detail : HandlerFault)
  | badPattern (detail : PatternFault)
  /-- A fault of the expression in a field. -/
  | inField (fault : Fault)
  deriving DecidableEq, Repr

def codePoint (c : Char) : String :=
  let digits := (Nat.toDigits 16 c.toNat).map Char.toUpper
  String.ofList (List.replicate (4 - digits.length) '0' ++ digits)

def Fault.message : Fault → String
  | .invalidSyntax => "invalid syntax"
  | .nullBytes => "source code string cannot contain null bytes"
  | .expected mark => "expected '" ++ mark.text ++ "'"
  | .neverClosed bracket => "'" ++ bracket.toString ++ "' was never closed"
  | .unmatched bracket => "unmatched '" ++ bracket.toString ++ "'"
  | .mismatched closing opening openedOn =>
      "closing parenthesis '" ++ closing.toString ++ "' does not match opening parenthesis '" ++
        opening.toString ++ "'" ++ (match openedOn with
          | none => ""
          | some line => " on line " ++ toString line)
  | .tooManyBrackets => "too many nested parentheses"
  | .unexpectedIndent => "unexpected indent"
  | .unexpectedUnindent => "unexpected unindent"
  | .unindentMismatch => "unindent does not match any outer indentation level"
  | .inconsistentTabs => "inconsistent use of tabs and spaces in indentation"
  | .tooDeep => "too many levels of indentation"
  | .missingBlock owner line =>
      "expected an indented block after " ++ owner.text ++ " on line " ++ toString line
  | .unterminatedString detected =>
      "unterminated string literal (detected at line " ++ toString detected ++ ")"
  | .unterminatedBlockString detected =>
      "unterminated triple-quoted string literal (detected at line " ++ toString detected ++ ")"
  | .invalidNumber kind => "invalid " ++ kind.text ++ " literal"
  | .invalidDigit digit kind =>
      "invalid digit '" ++ digit.toString ++ "' in " ++ kind.text ++ " literal"
  | .leadingZeros => "leading zeros in decimal integer literals are not permitted; " ++
      "use an 0o prefix for octal integers"
  | .tooManyDigits count => "Exceeds the limit (4300 digits) for integer string conversion: " ++
      "value has " ++ toString count ++ " digits; use sys.set_int_max_str_digits() to increase " ++
      "the limit - Consider hexadecimal for huge integer literals to avoid decimal conversion limits."
  | .invalidCharacter c => "invalid character '" ++ c.toString ++ "' (U+" ++ codePoint c ++ ")"
  | .unprintableCharacter c => "invalid non-printable character U+" ++ codePoint c
  | .unexpectedEnd => "unexpected EOF while parsing"
  | .afterContinuation => "unexpected character after line continuation character"
  | .missingParentheses callee =>
      "Missing parentheses in call to '" ++ callee.text ++ "'. Did you mean " ++ callee.text ++ "(...)?"
  | .missingComma => "invalid syntax. Perhaps you forgot a comma?"
  | .missingElse => "expected 'else' after 'if' expression"
  | .trailingComma => "trailing comma not allowed without surrounding parentheses"
  | .assignmentForComparison => "invalid syntax. Maybe you meant '==' or ':=' instead of '='?"
  | .notAssignableHere what =>
      "cannot assign to " ++ what.text ++ " here. Maybe you meant '==' instead of '='?"
  | .notAssignable what => "cannot assign to " ++ what.text
  | .notDeletable what => "cannot delete " ++ what.text
  | .yieldAssigned => "assignment to yield expression not possible"
  | .notCombinable what => "'" ++ what.text ++ "' is an illegal expression for augmented assignment"
  | .notAnnotatable => "illegal target for annotation"
  | .notSingle what => "only single target (not " ++ what.text ++ ") can be annotated"
  | .walrusTarget what => "cannot use assignment expressions with " ++ what.text
  | .mixedLiterals => "cannot mix bytes and nonbytes literals"
  | .nonAsciiBytes => "bytes can only contain ASCII literal characters"
  | .badEscape detail => detail.text
  | .badField detail => detail.text
  | .badDisplay detail => detail.text
  | .badParameters detail => detail.text
  | .badArguments detail => detail.text
  | .badHandlers detail => detail.text
  | .badPattern detail => detail.text
  | .inField fault => "f-string: " ++ fault.message

/-- What found a fault: the grammar, the lexer, or the reader of a field in a formatted literal. -/
inductive Origin where
  | grammar
  | lexer
  | field
  deriving DecidableEq, Repr

/-- A fault that ends the reading. Without a line of its own it is reported on the line of the
furthest token looked at. -/
structure Report where
  fault : Fault
  line : Option Nat
  origin : Origin
  deriving DecidableEq, Repr

def Report.ofFault (fault : Fault) : Report := ⟨fault, none, .grammar⟩

structure SyntaxError where
  fault : Fault
  line : Option Nat
  deriving DecidableEq, Repr

def SyntaxError.message (error : SyntaxError) : String :=
  match error.line with
  | none => error.fault.message
  | some line => error.fault.message ++ " (<unknown>, line " ++ toString line ++ ")"

end Refactory.Source
