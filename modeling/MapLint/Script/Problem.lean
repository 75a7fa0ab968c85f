import MapLint.Text.Span
import MapLint.Text.Quoted

/-!
# What can be wrong with a script

`Problem` lists the causes for which a script is refused, and `Problem.text` is the one place
where they are put into words. A `Fault` is a problem at a place.

Positions inside the wording count bytes from one, as editors do, while spans count from zero.
-/

namespace MapLint.Script

/-- A cause for refusing a script. -/
inductive Problem where
  /-- A numbered rule of the typed dialect; many of them apply to untyped scripts as well. -/
  | numbered (code : Nat)
  /-- A numbered rule about modifiers of a class member. -/
  | modifiers (code : Nat) (words : List String)
  /-- A certain token had to follow. -/
  | expected (wanted got : String)
  /-- One of several things had to follow. -/
  | unexpected (got wanted : String)
  /-- An expression statement is followed by something on the same line. -/
  | statementGoesOn (expression : Span)
  | endOfText
  | identifierExpected
  | unterminatedString
  | unterminatedTemplate
  | unterminatedRegex
  | unterminatedComment
  | digitExpected (radix : Nat)
  | exponentExpected
  | identifierAfterNumber
  | misplacedSeparator
  | legacyOctal
  | legacyDecimal
  | badEscape (wanted : String)
  | unexpectedChar (c : Char)
  | duplicateRegexFlag (c : Char)
  | unknownRegexFlags
  | returnOutsideFunction
  | invalidAssignTarget
  | notSimpleTarget
  | constWithoutValue
  | usingNotEnabled
  | usingWithoutValue
  | patternWithoutValue
  | valueInForHead
  | severalNamesInForHead
  | withInStrict
  | newTargetOutsideFunction
  | superOutsideMethod
  | superCallMisplaced
  | superCallOptional
  | importMisplaced
  | awaitAsName
  | awaitStar
  | awaitInFunction
  | awaitInParameters
  | awaitInScript
  | awaitWithPlainFor
  | yieldInParameters
  | metaInScript
  | importInScript
  | duplicateLabel (name : String)
  | labelledFunctionInStrict
  | labelledGenerator
  | declarationMisplaced
  | duplicateConstructor
  | generatorConstructor
  | asyncConstructor
  | accessorConstructor
  | fieldNamedConstructor
  | privateConstructor
  | readonlyMethod
  | readonlyAccessor
  | getterWithParameters
  | setterWithoutOneParameter
  | multipleDefault (previous : Span)
  | nullishWithLogical
  | spreadInParentheses
  | emptyParentheses
  | lineBreakAfterThrow
  | lineBreakBeforeArrow
  | arrowMisplaced
  | invalidExpression
  | invalidPattern
  | restNotLast
  | commaAfterRest
  | dotsWithoutName
  | shorthandWithValue
  | reservedShorthand
  | reservedImport
  | importedStringName (name : String)
  | exportedStringName
  | exportWithoutSource (name : String)
  | commaInImportCall
  | reservedInStrict (name : String)
  | evalOrArgumentsInStrict
  | argumentsInField
  | htmlCommentInModule
  | optionalInConstructorCall
  | optionalPattern
  | parameterPropertyPattern
  | annotationAfterDefault
  | closingTagExpected (tag : String)
  | emptyMarkupAttribute
  | markupValueExpected
  | markupTextChar (suggestions : List String)
  /-- A problem met while reading a certain part of a statement. -/
  | within (inner : Problem) (place : Span) (label : Span) (note : String)
  | unaryInPower
  /-- The reader ran out of steps. No script that fits in memory reaches this. -/
  | outOfSteps
deriving Inhabited

/-- A problem at a place of the text. -/
structure Fault where
  place : Span
  problem : Problem
deriving Inhabited

/-- A span in words: byte positions counted from one. -/
def spanWords (s : Span) : String := toString (s.start + 1) ++ ".." ++ toString (s.stop + 1)

/-- A record in words: its name and its fields between braces. -/
def recordWords (name : String) (fields : List (String × String)) : String :=
  name ++ " \x7b " ++ ", ".intercalate (fields.map fun f => f.1 ++ ": " ++ f.2) ++ " \x7d"

/-- The wording of a problem. -/
def Problem.text : Problem → String
  | .numbered code => "TS" ++ toString code
  | .modifiers code words =>
    "TS" ++ toString code ++ "(" ++ ", ".intercalate (words.map quoteString) ++ ")"
  | .expected wanted got => "Expected(" ++ quoteString wanted ++ ", " ++ quoteString got ++ ")"
  | .unexpected got wanted =>
    recordWords "Unexpected" [("got", quoteString got), ("expected", quoteString wanted)]
  | .statementGoesOn e => recordWords "ExpectedSemiForExprStmt" [("expr", spanWords e)]
  | .endOfText => "Eof"
  | .identifierExpected => "ExpectedIdent"
  | .unterminatedString => "UnterminatedStrLit"
  | .unterminatedTemplate => "UnterminatedTpl"
  | .unterminatedRegex => "UnterminatedRegExp"
  | .unterminatedComment => "UnterminatedBlockComment"
  | .digitExpected radix => recordWords "ExpectedDigit" [("radix", toString radix)]
  | .exponentExpected => "NumLitTerminatedWithExp"
  | .identifierAfterNumber => "IdentAfterNum"
  | .misplacedSeparator => "NumericSeparatorIsAllowedOnlyBetweenTwoDigits"
  | .legacyOctal => "LegacyOctal"
  | .legacyDecimal => "LegacyDecimal"
  | .badEscape wanted => recordWords "BadCharacterEscapeSequence" [("expected", quoteString wanted)]
  | .unexpectedChar c => recordWords "UnexpectedChar" [("c", quoteChar c)]
  | .duplicateRegexFlag c => "DuplicatedRegExpFlags(" ++ quoteChar c ++ ")"
  | .unknownRegexFlags => "UnknownRegExpFlags"
  | .returnOutsideFunction => "ReturnNotAllowed"
  | .invalidAssignTarget => "InvalidAssignTarget"
  | .notSimpleTarget => "NotSimpleAssign"
  | .constWithoutValue => "ConstDeclarationsRequireInitialization"
  | .usingNotEnabled => "UsingDeclNotEnabled"
  | .usingWithoutValue => "InitRequiredForUsingDecl"
  | .patternWithoutValue => "PatVarWithoutInit"
  | .valueInForHead => "VarInitializerInForInHead"
  | .severalNamesInForHead => "TooManyVarInForInHead"
  | .withInStrict => "WithInStrict"
  | .newTargetOutsideFunction => "InvalidNewTarget"
  | .superOutsideMethod => "InvalidSuper"
  | .superCallMisplaced => "InvalidSuperCall"
  | .superCallOptional => "SuperCallOptional"
  | .importMisplaced => "InvalidImport"
  | .awaitAsName => "InvalidIdentInAsync"
  | .awaitStar => "AwaitStar"
  | .awaitInFunction => "AwaitInFunction"
  | .awaitInParameters => "AwaitParamInAsync"
  | .awaitInScript => "TopLevelAwaitInScript"
  | .awaitWithPlainFor => "AwaitForStmt"
  | .yieldInParameters => "YieldParamInGen"
  | .metaInScript => "ImportMetaInScript"
  | .importInScript => "ImportExportInScript"
  | .duplicateLabel name => "DuplicateLabel(" ++ quoteString name ++ ")"
  | .labelledFunctionInStrict => "LabelledFunctionInStrict"
  | .labelledGenerator => "LabelledGeneratorOrAsync"
  | .declarationMisplaced => "DeclNotAllowed"
  | .duplicateConstructor => "DuplicateConstructor"
  | .generatorConstructor => "GeneratorConstructor"
  | .asyncConstructor => "AsyncConstructor"
  | .accessorConstructor => "ConstructorAccessor"
  | .fieldNamedConstructor => "PropertyNamedConstructor"
  | .privateConstructor => "PrivateConstructor"
  | .readonlyMethod => "ReadOnlyMethod"
  | .readonlyAccessor => "GetterSetterCannotBeReadonly"
  | .getterWithParameters => "GetterParam"
  | .setterWithoutOneParameter => "SetterParam"
  | .multipleDefault previous => recordWords "MultipleDefault" [("previous", spanWords previous)]
  | .nullishWithLogical => "NullishCoalescingWithLogicalOp"
  | .spreadInParentheses => "SpreadInParenExpr"
  | .emptyParentheses => "EmptyParenExpr"
  | .lineBreakAfterThrow => "LineBreakInThrow"
  | .lineBreakBeforeArrow => "LineBreakBeforeArrow"
  | .arrowMisplaced => "ArrowNotAllowed"
  | .invalidExpression => "InvalidExpr"
  | .invalidPattern => "InvalidPat"
  | .restNotLast => "NonLastRestParam"
  | .commaAfterRest => "CommaAfterRestElement"
  | .dotsWithoutName => "DotsWithoutIdentifier"
  | .shorthandWithValue => "AssignProperty"
  | .reservedShorthand => "ReservedWordInObjShorthandOrPat"
  | .reservedImport => "ReservedWordInImport"
  | .importedStringName name => "ImportBindingIsString(" ++ quoteString name ++ ")"
  | .exportedStringName => "ExportBindingIsString"
  | .exportWithoutSource name => "ExportExpectFrom(" ++ quoteString name ++ ")"
  | .commaInImportCall => "TrailingCommaInsideImport"
  | .reservedInStrict name => "InvalidIdentInStrict(" ++ quoteString name ++ ")"
  | .evalOrArgumentsInStrict => "EvalAndArgumentsInStrict"
  | .argumentsInField => "ArgumentsInClassField"
  | .htmlCommentInModule => "LegacyCommentInModule"
  | .optionalInConstructorCall => "OptChainCannotFollowConstructorCall"
  | .optionalPattern => "TsBindingPatCannotBeOptional"
  | .parameterPropertyPattern => "TsInvalidParamPropPat"
  | .annotationAfterDefault => "TSTypeAnnotationAfterAssign"
  | .closingTagExpected tag => recordWords "JSXExpectedClosingTag" [("tag", quoteString tag)]
  | .emptyMarkupAttribute => "EmptyJSXAttr"
  | .markupValueExpected => "InvalidJSXValue"
  | .markupTextChar suggestions =>
    recordWords "UnexpectedTokenWithSuggestions"
      [("candidate_list", "[" ++ ", ".intercalate (suggestions.map quoteString) ++ "]")]
  | .within inner place label note =>
    recordWords "WithLabel"
      [("inner", recordWords "Error" [("error", "(" ++ spanWords place ++ ", " ++ inner.text ++ ")")]),
        ("span", spanWords label), ("note", quoteString note)]
  | .unaryInPower => "UnaryInExp"
  | .outOfSteps => "OutOfSteps"

end MapLint.Script
