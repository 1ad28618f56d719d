import CommandTemplate.Text.NamedSet
import CommandTemplate.Text.Property.Letters
import CommandTemplate.Text.Property.Signs

/-!
Yes-or-no properties of characters by their names.
-/

namespace CommandTemplate.Text.Property

/-- The properties by their names. -/
def named : List NamedSet :=
  [⟨["ahex", "asciihexdigit"], asciiHexDigit⟩, ⟨["alpha", "alphabetic"], alphabetic⟩,
    ⟨["bidic", "bidicontrol"], bidiControl⟩, ⟨["bidim", "bidimirrored"], bidiMirrored⟩,
    ⟨["ci", "caseignorable"], caseIgnorable⟩, ⟨["cased"], cased⟩,
    ⟨["cwcf", "changeswhencasefolded"], changesWhenCasefolded⟩,
    ⟨["cwcm", "changeswhencasemapped"], changesWhenCasemapped⟩,
    ⟨["cwl", "changeswhenlowercased"], changesWhenLowercased⟩,
    ⟨["cwt", "changeswhentitlecased"], changesWhenTitlecased⟩,
    ⟨["cwu", "changeswhenuppercased"], changesWhenUppercased⟩, ⟨["dash"], dash⟩,
    ⟨["di", "defaultignorablecodepoint"], defaultIgnorableCodePoint⟩,
    ⟨["dep", "deprecated"], deprecated⟩, ⟨["dia", "diacritic"], diacritic⟩, ⟨["emoji"], emoji⟩,
    ⟨["ecomp", "emojicomponent"], emojiComponent⟩, ⟨["emod", "emojimodifier"], emojiModifier⟩,
    ⟨["ebase", "emojimodifierbase"], emojiModifierBase⟩,
    ⟨["epres", "emojipresentation"], emojiPresentation⟩,
    ⟨["extpict", "extendedpictographic"], extendedPictographic⟩,
    ⟨["ext", "extender"], extender⟩, ⟨["grbase", "graphemebase"], graphemeBase⟩,
    ⟨["grext", "graphemeextend"], graphemeExtend⟩, ⟨["grlink", "graphemelink"], graphemeLink⟩,
    ⟨["hex", "hexdigit"], hexDigit⟩, ⟨["hyphen"], hyphen⟩,
    ⟨["idsb", "idsbinaryoperator"], idsBinaryOperator⟩,
    ⟨["idst", "idstrinaryoperator"], idsTrinaryOperator⟩,
    ⟨["idsu", "idsunaryoperator"], idsUnaryOperator⟩,
    ⟨["idcompatmathcontinue"], idCompatMathContinue⟩,
    ⟨["idcompatmathstart"], idCompatMathStart⟩, ⟨["idc", "idcontinue"], idContinue⟩,
    ⟨["ids", "idstart"], idStart⟩, ⟨["ideo", "ideographic"], ideographic⟩,
    ⟨["joinc", "joincontrol"], joinControl⟩,
    ⟨["loe", "logicalorderexception"], logicalOrderException⟩,
    ⟨["lower", "lowercase"], lowercase⟩, ⟨["math"], math⟩,
    ⟨["mcm", "modifiercombiningmark"], modifierCombiningMark⟩,
    ⟨["nchar", "noncharactercodepoint"], noncharacterCodePoint⟩,
    ⟨["oalpha", "otheralphabetic"], otherAlphabetic⟩,
    ⟨["odi", "otherdefaultignorablecodepoint"], otherDefaultIgnorableCodePoint⟩,
    ⟨["ogrext", "othergraphemeextend"], otherGraphemeExtend⟩,
    ⟨["oidc", "otheridcontinue"], otherIdContinue⟩, ⟨["oids", "otheridstart"], otherIdStart⟩,
    ⟨["olower", "otherlowercase"], otherLowercase⟩, ⟨["omath", "othermath"], otherMath⟩,
    ⟨["oupper", "otheruppercase"], otherUppercase⟩,
    ⟨["patsyn", "patternsyntax"], patternSyntax⟩,
    ⟨["patws", "patternwhitespace"], patternWhiteSpace⟩,
    ⟨["pcm", "prependedconcatenationmark"], prependedConcatenationMark⟩,
    ⟨["qmark", "quotationmark"], quotationMark⟩, ⟨["radical"], radical⟩,
    ⟨["ri", "regionalindicator"], regionalIndicator⟩,
    ⟨["sterm", "sentenceterminal"], sentenceTerminal⟩, ⟨["sd", "softdotted"], softDotted⟩,
    ⟨["term", "terminalpunctuation"], terminalPunctuation⟩,
    ⟨["uideo", "unifiedideograph"], unifiedIdeograph⟩, ⟨["upper", "uppercase"], uppercase⟩,
    ⟨["vs", "variationselector"], variationSelector⟩,
    ⟨["space", "wspace", "whitespace"], whiteSpace⟩, ⟨["xidc", "xidcontinue"], xidContinue⟩,
    ⟨["xids", "xidstart"], xidStart⟩]

/-- The names of the other properties of characters, of which there are no tables here. -/
def untabled : List String :=
  (tableWords
    "bc bidiclass bidimirroringglyph bidipairedbracket bidipairedbrackettype blk block bmg bpb
    bpt canonicalcombiningclass casefolding ccc ce cf changeswhennfkccasefolded
    cjkaccountingnumeric cjkcompatibilityvariant cjkiicore cjkirggsource cjkirghsource
    cjkirgjsource cjkirgkpsource cjkirgksource cjkirgmsource cjkirgssource cjkirgtsource
    cjkirguksource cjkirgusource cjkirgvsource cjkothernumeric cjkprimarynumeric cjkrsunicode
    compex compositionexclusion cwkcf decompositionmapping decompositiontype dm dt ea
    eastasianwidth equideo equivalentunifiedideograph expandsonnfc expandsonnfd expandsonnfkc
    expandsonnfkd fcnfkc fcnfkcclosure fullcompositionexclusion hangulsyllabletype hst incb
    indicconjunctbreak indicpositionalcategory indicsyllabiccategory inpc insc isc jamoshortname
    jg joininggroup joiningtype jsn jt kaccountingnumeric kcompatibilityvariant kehcat kehdesc
    kehhg kehifao kehjsesh kehnomirror kehnorotate kiicore kirggsource kirghsource kirgjsource
    kirgkpsource kirgksource kirgmsource kirgssource kirgtsource kirguksource kirgusource
    kirgvsource kothernumeric kprimarynumeric krsunicode lb lc linebreak lowercasemapping na na1
    name namealias nfcqc nfcquickcheck nfdqc nfdquickcheck nfkccasefold nfkccf nfkcqc
    nfkcquickcheck nfkcscf nfkcsimplecasefold nfkdqc nfkdquickcheck nt numerictype numericvalue
    nv ocomment scf sfc simplecasefolding simplelowercasemapping simpletitlecasemapping
    simpleuppercasemapping slc stc suc tc titlecasemapping uc unicode1name unicoderadicalstroke
    uppercasemapping urs verticalorientation vo xonfc xonfd xonfkc xonfkd").map String.ofList

end CommandTemplate.Text.Property
