import TypeAncestry.Text.Age
import TypeAncestry.Text.Breaks

/-!
# Unicode properties by name

* `Pattern.Property.named?` : the characters with the property of a given name, if it is known.

A property may be given by its name alone or by the name of a group of properties and the name of
its value in that group: `Lu` is `gc=Lu`.  Known are general categories, scripts, ages, the
properties that say where a text may be broken, and properties that a character either has or has
not.
-/

namespace TypeAncestry

namespace Pattern

namespace Property

open Text

/-! ### Names -/

/-- The letters of a name that count: those of ASCII, in lower case, without blanks, dashes and
underscores, and without an `is` in front of the name. -/
def plainName (name : List Char) : String :=
  let plain (letters : List Char) : List Char :=
    (letters.filter fun c => c.toNat < 0x80 && !(c == ' ' || c == '-' || c == '_')).map Char.toLower
  match name with
  | i :: s :: rest =>
    if i.toLower = 'i' ∧ s.toLower = 's' ∧ plain rest ≠ ['c'] then String.ofList (plain rest)
    else String.ofList (plain name)
  | _ => String.ofList (plain name)

/-- The first entry of a table under one of whose names there is the given one. -/
def find? {α : Type} (table : List (List String × α)) (name : String) : Option α :=
  (table.find? (·.1.contains name)).map (·.2)

/-! ### General categories and scripts -/

/-- The general categories and their groups by name.  Surrogates are no characters and have none. -/
def categories : List (List String × (Category → Bool)) := [
  (["lu", "uppercaseletter"], (· == .lu)), (["ll", "lowercaseletter"], (· == .ll)),
  (["lt", "titlecaseletter"], (· == .lt)), (["lm", "modifierletter"], (· == .lm)),
  (["lo", "otherletter"], (· == .lo)), (["mn", "nonspacingmark"], (· == .mn)),
  (["mc", "spacingmark"], (· == .mc)), (["me", "enclosingmark"], (· == .me)),
  (["nd", "decimalnumber", "digit"], (· == .nd)), (["nl", "letternumber"], (· == .nl)),
  (["no", "othernumber"], (· == .no)), (["pc", "connectorpunctuation"], (· == .pc)),
  (["pd", "dashpunctuation"], (· == .pd)), (["ps", "openpunctuation"], (· == .ps)),
  (["pe", "closepunctuation"], (· == .pe)), (["pi", "initialpunctuation"], (· == .pi)),
  (["pf", "finalpunctuation"], (· == .pf)), (["po", "otherpunctuation"], (· == .po)),
  (["sm", "mathsymbol"], (· == .sm)), (["sc", "currencysymbol"], (· == .sc)),
  (["sk", "modifiersymbol"], (· == .sk)), (["so", "othersymbol"], (· == .so)),
  (["zs", "spaceseparator"], (· == .zs)), (["zl", "lineseparator"], (· == .zl)),
  (["zp", "paragraphseparator"], (· == .zp)), (["cc", "control", "cntrl"], (· == .cc)),
  (["cf", "format"], (· == .cf)), (["co", "privateuse"], (· == .co)),
  (["cn", "unassigned"], (· == .cn)),
  (["lc", "casedletter"], fun c => c == .lu || c == .ll || c == .lt),
  (["l", "letter"], Category.isLetter), (["m", "mark", "combiningmark"], Category.isMark),
  (["n", "number"], Category.isNumber), (["z", "separator"], Category.isSeparator),
  (["c", "other"], Category.isOther), (["p", "punctuation", "punct"], Category.isPunctuation),
  (["s", "symbol"], Category.isSymbol)]

/-- The characters of the general category with the given plain name.  All characters, those that
are assigned, and those of ASCII count as categories. -/
def category? (name : String) : Option CharSet :=
  if name = "any" then some .all
  else if name = "assigned" then some (charsWith (· == .cn)).compl
  else if name = "ascii" then some ⟨[(0, 0x7F)]⟩
  else (find? categories name).map charsWith

/-- The characters that belong to the script with the given plain name. -/
def script? (name : String) : Option CharSet := (Script.named? name).map fun s => ⟨s.intervals⟩

/-! ### Properties that a character has or has not -/

/-- The properties of letters and identifiers. -/
def ofLetters : List (List String × CharSet) := [
  (["ahex", "asciihexdigit"], asciiHexDigits), (["hex", "hexdigit"], hexDigits),
  (["alpha", "alphabetic"], alphabetic),
  (["oalpha", "otheralphabetic"], CharSet.diff ⟨otherAlphabetic⟩ newcomers),
  (["lower", "lowercase"], lowercase), (["olower", "otherlowercase"], otherLowercase),
  (["upper", "uppercase"], uppercase), (["oupper", "otheruppercase"], otherUppercase),
  (["cased"], cased), (["ci", "caseignorable"], caseIgnorable),
  (["cwcf", "changeswhencasefolded"], changesWhenFolded),
  (["cwcm", "changeswhencasemapped"], changesWhenMapped),
  (["cwl", "changeswhenlowercased"], changesWhenLowered),
  (["cwt", "changeswhentitlecased"], changesWhenTitled),
  (["cwu", "changeswhenuppercased"], changesWhenUppered), (["sd", "softdotted"], softDotted),
  (["ids", "idstart"], identifierStart), (["oids", "otheridstart"], otherIdentifierStart),
  (["idc", "idcontinue"], identifierContinue),
  (["oidc", "otheridcontinue"], otherIdentifierContinue),
  (["xids", "xidstart"], closedIdentifierStart),
  (["xidc", "xidcontinue"], closedIdentifierContinue), (["idcompatmathstart"], mathIdentifierStart),
  (["idcompatmathcontinue"], mathIdentifierContinue), (["ideo", "ideographic"], ideographs),
  (["uideo", "unifiedideograph"], unifiedIdeographs), (["radical"], radicals),
  (["joinc", "joincontrol"], joinControl)]

/-- The properties of marks and of characters that are not shown. -/
def ofMarks : List (List String × CharSet) := [
  (["grbase", "graphemebase"], graphemeBase), (["grext", "graphemeextend"], graphemeExtend),
  (["ogrext", "othergraphemeextend"], otherExtend), (["grlink", "graphemelink"], graphemeLinks),
  (["dia", "diacritic"], diacritics), (["ext", "extender"], extenders),
  (["mcm", "modifiercombiningmark"], modifierCombiningMarks),
  (["loe", "logicalorderexception"], logicalOrderExceptions),
  (["dep", "deprecated"], deprecatedChars), (["vs", "variationselector"], variationSelectors),
  (["pcm", "prependedconcatenationmark"], prependedMarks),
  (["di", "defaultignorablecodepoint"], defaultIgnorable),
  (["odi", "otherdefaultignorablecodepoint"], otherIgnorable),
  (["bidic", "bidicontrol"], bidiControls), (["nchar", "noncharactercodepoint"], nonCharacters)]

/-- The properties of punctuation, symbols and spaces. -/
def ofSymbols : List (List String × CharSet) := [
  (["wspace", "whitespace", "space"], whiteSpace), (["patws", "patternwhitespace"], patternSpace),
  (["patsyn", "patternsyntax"], patternSyntax), (["dash"], dashes), (["hyphen"], hyphens),
  (["qmark", "quotationmark"], quotationMarks), (["sterm", "sentenceterminal"], sentenceEnds),
  (["term", "terminalpunctuation"], terminalMarks), (["math"], math),
  (["omath", "othermath"], otherMath), (["bidim", "bidimirrored"], mirrored), (["emoji"], emoji),
  (["epres", "emojipresentation"], emojiPresentation), (["emod", "emojimodifier"], emojiModifiers),
  (["ebase", "emojimodifierbase"], emojiModifierBases),
  (["ecomp", "emojicomponent"], emojiComponents),
  (["extpict", "extendedpictographic"], pictographs),
  (["ri", "regionalindicator"], regionalIndicators),
  (["idsu", "idsunaryoperator"], unaryDescriptions),
  (["idsb", "idsbinaryoperator"], binaryDescriptions),
  (["idst", "idstrinaryoperator"], ternaryDescriptions)]

/-- The characters with the property that has the given plain name: one that a character has or has
not, a general category or a script. -/
def plain? (name : String) : Option CharSet :=
  (find? ofLetters name).or <| (find? ofMarks name).or <| (find? ofSymbols name).or <|
    (category? name).or (script? name)

/-! ### Properties with values -/

/-- The groups of properties by name, each with the characters for the plain name of a value. -/
def groups : List (List String × (String → Option CharSet)) := [
  (["gc", "generalcategory"], category?), (["sc", "script"], script?),
  (["scx", "scriptextensions"], fun v => (Script.named? v).map Script.usedIn), (["age"], Age.upTo?),
  (["gcb", "graphemeclusterbreak"], find? GraphemeBreak.values),
  (["wb", "wordbreak"], find? WordBreak.values),
  (["sb", "sentencebreak"], find? SentenceBreak.values)]

/-- The characters for which the property named `key` has the value named `value`. -/
def value? (key value : List Char) : Option CharSet :=
  (find? groups (plainName key)).bind fun chars? => chars? (plainName value)

/-- The two parts of a text around the first place where `sign` stands. -/
def around? (sign : List Char) : List Char → Option (List Char × List Char)
  | [] => none
  | c :: cs =>
    if sign.isPrefixOf (c :: cs) then some ([], (c :: cs).drop sign.length)
    else (around? sign cs).map fun (l, r) => (c :: l, r)

/-- The characters with the property that is named in a pattern, and whether those without it are
meant.  A name and a value are separated by one of the signs `!=`, which means the characters
without the property, `:` and `=`; the first of them that occurs anywhere counts. -/
def named? (name : List Char) : Option (Bool × CharSet) :=
  match around? ['!', '='] name, around? [':'] name, around? ['='] name with
  | some (key, value), _, _ => (value? key value).map (true, ·)
  | none, some (key, value), _ => (value? key value).map (false, ·)
  | none, none, some (key, value) => (value? key value).map (false, ·)
  | none, none, none => (plain? (plainName name)).map (false, ·)

end Property

end Pattern

end TypeAncestry
