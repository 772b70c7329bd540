/-!
# Faults of expressions in the manner of Perl

What can be wrong with the text of an expression of the richer dialect, and what is said about it.
-/

set_option autoImplicit false

namespace SessionHandoff.Tools.Searching.Perl

/-- Why a text is no expression. -/
inductive Fault where
  | endsInBackslash | endsInControl | escape | repeatOrder | repeatSize | openSet | setEscape
  | rangeOrder | nothingToRepeat | groupSign | namedClassOutside | collation | openGroup | reference
  | openComment | closedGroup | openCondition | lookBehind | relativeZero | conditionBranches
  | condition | relativeDigit | className | codeSize | caseEscape | calloutSize | openCallout
  | groupLetter | openName | sameName | nameDigit | property | unknownProperty | nameLength
  | setRange | octalSize | defineBranches | octalBrace | groupEscape | wholeCall | verb
  | groupSize | noName | octalDigit | otherName | verbArgument | hexDigit | control | nameEscape
  | lineInSet | surrogate | noDigits | codeName | hyphen | assertion | keepAround
deriving DecidableEq, Repr

/-- What is said about a fault. -/
def Fault.message : Fault → String
  | .endsInBackslash => "\\ at end of pattern"
  | .endsInControl => "\\c at end of pattern"
  | .escape => "unrecognized character follows \\"
  | .repeatOrder => "numbers out of order in \x7b\x7d quantifier"
  | .repeatSize => "number too big in \x7b\x7d quantifier"
  | .openSet => "missing terminating ] for character class"
  | .setEscape => "escape sequence is invalid in character class"
  | .rangeOrder => "range out of order in character class"
  | .nothingToRepeat => "quantifier does not follow a repeatable item"
  | .groupSign => "unrecognized character after (? or (?-"
  | .namedClassOutside => "POSIX named classes are supported only within a class"
  | .collation => "POSIX collating elements are not supported"
  | .openGroup => "missing closing parenthesis"
  | .reference => "reference to non-existent subpattern"
  | .openComment => "missing ) after (?# comment"
  | .closedGroup => "unmatched closing parenthesis"
  | .openCondition => "missing closing parenthesis for condition"
  | .lookBehind => "lookbehind assertion is not fixed length"
  | .relativeZero => "a relative value of zero is not allowed"
  | .conditionBranches => "conditional subpattern contains more than two branches"
  | .condition => "assertion expected after (?( or (?(?C)"
  | .relativeDigit => "digit expected after (?+ or (?-"
  | .className => "unknown POSIX class name"
  | .codeSize => "character code point value in \\x\x7b\x7d or \\o\x7b\x7d is too large"
  | .caseEscape => "PCRE2 does not support \\F, \\L, \\l, \\N\x7bname\x7d, \\U, or \\u"
  | .calloutSize => "number after (?C is greater than 255"
  | .openCallout => "closing parenthesis for (?C expected"
  | .groupLetter => "unrecognized character after (?P"
  | .openName => "syntax error in subpattern name (missing terminator?)"
  | .sameName => "two named subpatterns have the same name (PCRE2_DUPNAMES not set)"
  | .nameDigit => "subpattern name must start with a non-digit"
  | .property => "malformed \\P or \\p sequence"
  | .unknownProperty => "unknown property after \\P or \\p"
  | .nameLength => "subpattern name is too long (maximum 32 code units)"
  | .setRange => "invalid range in character class"
  | .octalSize => "octal value is greater than \\377 in 8-bit non-UTF-8 mode"
  | .defineBranches => "DEFINE subpattern contains more than one branch"
  | .octalBrace => "missing opening brace after \\o"
  | .groupEscape => "\\g is not followed by a braced, angle-bracketed, or quoted name/number" ++
      " or by a plain number"
  | .wholeCall => "(?R (recursive pattern call) must be followed by a closing parenthesis"
  | .verb => "(*VERB) not recognized or malformed"
  | .groupSize => "subpattern number is too big"
  | .noName => "subpattern name expected"
  | .octalDigit => "non-octal character in \\o\x7b\x7d (closing brace missing?)"
  | .otherName => "different names for subpatterns of the same number are not allowed"
  | .verbArgument => "(*MARK) must have an argument"
  | .hexDigit => "non-hex character in \\x\x7b\x7d (closing brace missing?)"
  | .control => "\\c must be followed by a printable ASCII character"
  | .nameEscape => "\\k is not followed by a braced, angle-bracketed, or quoted name"
  | .lineInSet => "\\N is not supported in a class"
  | .surrogate => "disallowed Unicode code point (>= 0xd800 && <= 0xdfff)"
  | .noDigits => "digits missing in \\x\x7b\x7d or \\o\x7b\x7d or \\N\x7bU+\x7d"
  | .codeName => "\\N\x7bU+dddd\x7d is supported only in Unicode (UTF) mode"
  | .hyphen => "invalid hyphen in option setting"
  | .assertion => "(*alpha_assertion) not recognized"
  | .keepAround => "\\K is not allowed in lookarounds (but see PCRE2_EXTRA_ALLOW_LOOKAROUND_BSK)"

end SessionHandoff.Tools.Searching.Perl
