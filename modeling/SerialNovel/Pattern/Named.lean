import SerialNovel.Text.Age
import SerialNovel.Text.Boundary
import SerialNovel.Text.CaseChange
import SerialNovel.Text.Search

namespace SerialNovel.CharSet

/-- A name in lower case without what does not count. -/
def plainName (name : Text) : Text :=
  let body := match name with
    | i :: s :: rest => if i.toLower = 'i' && s.toLower = 's' then rest else name
    | _ => name
  let plain := (body.filter fun c => c.toNat < 128 && c ∉ [' ', '_', '-']).map Char.toLower
  if body.length < name.length && plain = ['c'] then "isc".toList else plain

def named? (table : List (List String × CharSet)) (name : Text) : Option CharSet :=
  (table.find? fun e => String.ofList name ∈ e.1).map (·.2)

def categoryNames : List (List String × CharSet) := [
  (["any"], ⟨[(0, maxNumber)]⟩),
  (["assigned"], unassigned.compl),
  (["ascii"], ⟨[(0, 0x7F)]⟩),
  (["l", "letter"], ofCategories Category.letters),
  (["lc", "casedletter"], ofCategories [.capital, .small, .title]),
  (["lu", "uppercaseletter"], Category.capital.set),
  (["ll", "lowercaseletter"], Category.small.set),
  (["lt", "titlecaseletter"], Category.title.set),
  (["lm", "modifierletter"], Category.modifierLetter.set),
  (["lo", "otherletter"], Category.otherLetter.set),
  (["m", "mark", "combiningmark"], ofCategories Category.marks),
  (["mn", "nonspacingmark"], Category.nonspacingMark.set),
  (["mc", "spacingmark"], Category.spacingMark.set),
  (["me", "enclosingmark"], Category.enclosingMark.set),
  (["n", "number"], ofCategories Category.numbers),
  (["nd", "decimalnumber", "digit"], Category.decimal.set),
  (["nl", "letternumber"], Category.letterNumber.set),
  (["no", "othernumber"], Category.otherNumber.set),
  (["p", "punctuation", "punct"], ofCategories Category.punctuation),
  (["pc", "connectorpunctuation"], Category.connector.set),
  (["pd", "dashpunctuation"], Category.dash.set),
  (["ps", "openpunctuation"], Category.opening.set),
  (["pe", "closepunctuation"], Category.closing.set),
  (["pi", "initialpunctuation"], Category.initialQuote.set),
  (["pf", "finalpunctuation"], Category.finalQuote.set),
  (["po", "otherpunctuation"], Category.otherPunctuation.set),
  (["s", "symbol"], ofCategories Category.symbols),
  (["sm", "mathsymbol"], Category.mathSymbol.set),
  (["sc", "currencysymbol"], Category.currency.set),
  (["sk", "modifiersymbol"], Category.modifierSymbol.set),
  (["so", "othersymbol"], Category.otherSymbol.set),
  (["z", "separator"], ofCategories Category.separators),
  (["zs", "spaceseparator"], Category.space.set),
  (["zl", "lineseparator"], Category.lineSeparator.set),
  (["zp", "paragraphseparator"], Category.paragraphSeparator.set),
  (["c", "other"], union unassigned (ofCategories Category.others)),
  (["cc", "control", "cntrl"], Category.control.set),
  (["cf", "format"], Category.format.set),
  (["co", "privateuse"], Category.privateUse.set),
  (["cn", "unassigned"], unassigned)]

def propertyNames : List (List String × CharSet) := [
  (["ahex", "asciihexdigit"], asciiHexDigit),
  (["alpha", "alphabetic"], alphabetic),
  (["bidic", "bidicontrol"], ⟨bidiControlRanges⟩),
  (["bidim", "bidimirrored"], ⟨bidiMirroredRanges⟩),
  (["ci", "caseignorable"], caseIgnorable),
  (["cased"], cased),
  (["cwcf", "changeswhencasefolded"], changesFolded),
  (["cwcm", "changeswhencasemapped"], changesCased),
  (["cwl", "changeswhenlowercased"], changesLowered),
  (["cwt", "changeswhentitlecased"], changesTitled),
  (["cwu", "changeswhenuppercased"], changesUppered),
  (["dash"], ⟨dashRanges⟩),
  (["di", "defaultignorablecodepoint"], ⟨defaultIgnorableRanges⟩),
  (["dep", "deprecated"], ⟨deprecatedRanges⟩),
  (["dia", "diacritic"], ⟨diacriticRanges⟩),
  (["emoji"], ⟨emojiRanges⟩),
  (["ecomp", "emojicomponent"], ⟨emojiComponentRanges⟩),
  (["emod", "emojimodifier"], ⟨emojiModifierRanges⟩),
  (["ebase", "emojimodifierbase"], ⟨emojiModifierBaseRanges⟩),
  (["epres", "emojipresentation"], ⟨emojiPresentationRanges⟩),
  (["extpict", "extendedpictographic"], ⟨extendedPictographicRanges⟩),
  (["ext", "extender"], ⟨extenderRanges⟩),
  (["grbase", "graphemebase"], graphemeBase),
  (["grext", "graphemeextend"], graphemeExtend),
  (["grlink", "graphemelink"], ⟨graphemeLinkRanges⟩),
  (["hex", "hexdigit"], hexDigit),
  (["hyphen"], ⟨hyphenRanges⟩),
  (["idcompatmathcontinue"], mathContinue),
  (["idcompatmathstart"], ⟨mathStartRanges⟩),
  (["idc", "idcontinue"], idContinue),
  (["ids", "idstart"], idStart),
  (["ideo", "ideographic"], ⟨ideographicRanges⟩),
  (["idsb", "idsbinaryoperator"], ⟨idsBinaryOperatorRanges⟩),
  (["idst", "idstrinaryoperator"], ⟨idsTrinaryOperatorRanges⟩),
  (["idsu", "idsunaryoperator"], ⟨[(0x2FFE, 0x2FFF)]⟩),
  (["joinc", "joincontrol"], joinControl),
  (["loe", "logicalorderexception"], ⟨logicalOrderExceptionRanges⟩),
  (["lower", "lowercase"], lowercase),
  (["math"], math),
  (["mcm", "modifiercombiningmark"], ⟨modifierCombiningMarkRanges⟩),
  (["nchar", "noncharactercodepoint"], ⟨noncharacterRanges⟩),
  (["oalpha", "otheralphabetic"], ⟨otherAlphabetic⟩),
  (["odi", "otherdefaultignorablecodepoint"], ⟨otherDefaultIgnorable⟩),
  (["ogrext", "othergraphemeextend"], ⟨otherGraphemeExtend⟩),
  (["oidc", "otheridcontinue"], ⟨otherIdContinue⟩),
  (["oids", "otheridstart"], ⟨otherIdStart⟩),
  (["olower", "otherlowercase"], ⟨otherLowercase⟩),
  (["omath", "othermath"], ⟨otherMath⟩),
  (["oupper", "otheruppercase"], ⟨otherUppercase⟩),
  (["patsyn", "patternsyntax"], ⟨patternSyntaxRanges⟩),
  (["patws", "patternwhitespace"], ⟨patternWhiteSpaceRanges⟩),
  (["pcm", "prependedconcatenationmark"], ⟨prependedConcatenationMarkRanges⟩),
  (["qmark", "quotationmark"], ⟨quotationMarkRanges⟩),
  (["radical"], ⟨radicalRanges⟩),
  (["ri", "regionalindicator"], regionalIndicator),
  (["sterm", "sentenceterminal"], ⟨sentenceTerminalRanges⟩),
  (["sd", "softdotted"], ⟨softDottedRanges⟩),
  (["term", "terminalpunctuation"], ⟨terminalPunctuationRanges⟩),
  (["uideo", "unifiedideograph"], ⟨unifiedIdeographRanges⟩),
  (["upper", "uppercase"], uppercase),
  (["vs", "variationselector"], ⟨variationSelectorRanges⟩),
  (["wspace", "whitespace", "space"], blank),
  (["xidc", "xidcontinue"], diff idContinue unstableContinue),
  (["xids", "xidstart"], diff idStart unstableStart)]

def category? (name : Text) : Option CharSet := named? categoryNames name

def script? (name : Text) : Option Script := Script.named? (String.ofList name)

/-- The set with a name of its own: a property, a category or a script, in this order. -/
def ofName? (name : Text) : Option CharSet :=
  let name := plainName name
  named? propertyNames name <|> category? name <|> (script? name).map Script.set

def ofValue? (property value : Text) : Option CharSet :=
  let property := String.ofList (plainName property)
  let value := plainName value
  if property ∈ ["gc", "generalcategory"] then category? value
  else if property ∈ ["sc", "script"] then (script? value).map Script.set
  else if property ∈ ["scx", "scriptextensions"] then (script? value).map Script.extendedSet
  else if property = "age" then assignedBy? (String.ofList value)
  else if property ∈ ["gcb", "graphemeclusterbreak"] then named? graphemeRoles value
  else if property ∈ ["wb", "wordbreak"] then named? wordRoles value
  else if property ∈ ["sb", "sentencebreak"] then named? sentenceRoles value
  else none

/-- The set that the text in the braces of a property class names. -/
def ofQuery? (query : Text) : Option CharSet :=
  match Text.cut? ['!', '='] query <|> Text.cut? [':'] query <|> Text.cut? ['='] query with
  | some (property, value) => ofValue? property value
  | none => ofName? query

end SerialNovel.CharSet
