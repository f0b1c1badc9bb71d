import WrapShell.Regex.Fault
import WrapShell.Unicode.Age
import WrapShell.Unicode.Boundary
/-!
# Properties in regular expressions

The sets of characters that have a name. A property stands alone, if characters have it or have
it not, or with a value. Names are compared without case, spaces, dashes and underscores, and
an `is` at the start does not count.
-/

namespace WrapShell.Regex

/-- A name as names of properties are compared. -/
def plainName (name : Text) : Text :=
  let plain (t : Text) : Text :=
    (t.filter fun c => c.toNat < 128 && c != ' ' && c != '_' && c != '-').map Char.toLower
  match name with
  | i :: s :: t =>
    if ['i', 'I'].contains i && ['s', 'S'].contains s then
      if plain t = ['c'] then "isc" else plain t
    else plain name
  | _ => plain name

/-- What is known of a property. -/
inductive PropertyKind where
  /-- Characters have it or have it not. -/
  | trait (set : CharSet)
  | category
  | script
  | scriptExtensions
  | age
  /-- The part that characters play at boundaries of some kind. -/
  | boundary (parts : List (List Text × CharSet))
  /-- Expressions cannot ask for it. -/
  | unsupported

/-- A property with its names. -/
def trait (names : List Text) (set : CharSet) : List Text × PropertyKind := (names, .trait set)

/-- The properties that characters have or have not. -/
def traits : List (List Text × PropertyKind) :=
  [trait ["asciihexdigit", "ahex"] Trait.asciiHexDigit,
    trait ["alphabetic", "alpha"] Trait.alphabetic,
    trait ["bidicontrol", "bidic"] Trait.bidiControl,
    trait ["bidimirrored", "bidim"] Trait.bidiMirrored,
    trait ["caseignorable", "ci"] Trait.caseIgnorable, trait ["cased"] Trait.cased,
    trait ["changeswhencasefolded", "cwcf"] Trait.changesWhenCasefolded,
    trait ["changeswhencasemapped", "cwcm"] Trait.changesWhenCasemapped,
    trait ["changeswhenlowercased", "cwl"] Trait.changesWhenLowercased,
    trait ["changeswhentitlecased", "cwt"] Trait.changesWhenTitlecased,
    trait ["changeswhenuppercased", "cwu"] Trait.changesWhenUppercased, trait ["dash"] Trait.dash,
    trait ["defaultignorablecodepoint", "di"] Trait.defaultIgnorable,
    trait ["deprecated", "dep"] Trait.deprecated, trait ["diacritic", "dia"] Trait.diacritic,
    trait ["emoji"] Trait.emoji, trait ["emojicomponent", "ecomp"] Trait.emojiComponent,
    trait ["emojimodifier", "emod"] Trait.emojiModifier,
    trait ["emojimodifierbase", "ebase"] Trait.emojiModifierBase,
    trait ["emojipresentation", "epres"] Trait.emojiPresentation,
    trait ["extendedpictographic", "extpict"] Trait.extendedPictographic,
    trait ["extender", "ext"] Trait.extender, trait ["graphemebase", "grbase"] Trait.graphemeBase,
    trait ["graphemeextend", "grext"] Trait.graphemeExtend,
    trait ["graphemelink", "grlink"] Trait.graphemeLink, trait ["hexdigit", "hex"] Trait.hexDigit,
    trait ["hyphen"] Trait.hyphen, trait ["idsbinaryoperator", "idsb"] Trait.idsBinaryOperator,
    trait ["idstrinaryoperator", "idst"] Trait.idsTrinaryOperator,
    trait ["idsunaryoperator", "idsu"] Trait.idsUnaryOperator,
    trait ["idcompatmathcontinue"] Trait.compatMathContinue,
    trait ["idcompatmathstart"] Trait.compatMathStart, trait ["idcontinue", "idc"] Trait.idContinue,
    trait ["idstart", "ids"] Trait.idStart, trait ["ideographic", "ideo"] Trait.ideographic,
    trait ["joincontrol", "joinc"] Trait.joinControl,
    trait ["logicalorderexception", "loe"] Trait.logicalOrderException,
    trait ["lowercase", "lower"] Trait.lowercase, trait ["math"] Trait.math,
    trait ["modifiercombiningmark", "mcm"] Trait.modifierCombiningMark,
    trait ["noncharactercodepoint", "nchar"] Trait.noncharacter,
    trait ["otheralphabetic", "oalpha"] Trait.otherAlphabetic,
    trait ["otherdefaultignorablecodepoint", "odi"] Trait.otherDefaultIgnorable,
    trait ["othergraphemeextend", "ogrext"] Trait.otherGraphemeExtend,
    trait ["otheridcontinue", "oidc"] Trait.otherIdContinue,
    trait ["otheridstart", "oids"] Trait.otherIdStart,
    trait ["otherlowercase", "olower"] Trait.otherLowercase,
    trait ["othermath", "omath"] Trait.otherMath,
    trait ["otheruppercase", "oupper"] Trait.otherUppercase,
    trait ["patternsyntax", "patsyn"] Trait.patternSyntax,
    trait ["patternwhitespace", "patws"] Trait.patternWhiteSpace,
    trait ["prependedconcatenationmark", "pcm"] Trait.prependedConcatenationMark,
    trait ["quotationmark", "qmark"] Trait.quotationMark, trait ["radical"] Trait.radical,
    trait ["regionalindicator", "ri"] Trait.regionalIndicator,
    trait ["sentenceterminal", "sterm"] Trait.sentenceTerminal,
    trait ["softdotted", "sd"] Trait.softDotted,
    trait ["terminalpunctuation", "term"] Trait.terminalPunctuation,
    trait ["unifiedideograph", "uideo"] Trait.unifiedIdeograph,
    trait ["uppercase", "upper"] Trait.uppercase,
    trait ["variationselector", "vs"] Trait.variationSelector,
    trait ["whitespace", "wspace", "space"] Trait.whiteSpace,
    trait ["xidcontinue", "xidc"] Trait.xidContinue, trait ["xidstart", "xids"] Trait.xidStart]

/-- The properties that have values. -/
def valued : List (List Text × PropertyKind) :=
  [(["gc", "generalcategory"], .category), (["sc", "script"], .script),
    (["scx", "scriptextensions"], .scriptExtensions), (["age"], .age),
    (["gcb", "graphemeclusterbreak"], .boundary Cluster.parts), (["wb", "wordbreak"], .boundary WordPart.parts),
    (["sb", "sentencebreak"], .boundary SentencePart.parts)]

/-- The properties that expressions can ask for. -/
def properties : List (List Text × PropertyKind) := valued ++ traits

/-- Names of properties that expressions cannot ask for. -/
def otherProperties : List Text :=
  List.flatMap (fun line : Text => List.splitOn ' ' line) [
    "bc bidiclass bidimirroringglyph bidipairedbracket bidipairedbrackettype blk block bmg bpb",
    "bpt canonicalcombiningclass casefolding ccc ce cf changeswhennfkccasefolded",
    "cjkaccountingnumeric cjkcompatibilityvariant cjkiicore cjkirggsource cjkirghsource",
    "cjkirgjsource cjkirgkpsource cjkirgksource cjkirgmsource cjkirgssource cjkirgtsource",
    "cjkirguksource cjkirgusource cjkirgvsource cjkothernumeric cjkprimarynumeric cjkrsunicode",
    "compex compositionexclusion cwkcf decompositionmapping decompositiontype dm dt ea",
    "eastasianwidth equideo equivalentunifiedideograph expandsonnfc expandsonnfd expandsonnfkc",
    "expandsonnfkd fcnfkc fcnfkcclosure fullcompositionexclusion hangulsyllabletype hst incb",
    "indicconjunctbreak indicpositionalcategory indicsyllabiccategory inpc insc isc",
    "jamoshortname jg joininggroup joiningtype jsn jt kaccountingnumeric kcompatibilityvariant",
    "kehcat kehdesc kehhg kehifao kehjsesh kehnomirror kehnorotate kiicore kirggsource",
    "kirghsource kirgjsource kirgkpsource kirgksource kirgmsource kirgssource kirgtsource",
    "kirguksource kirgusource kirgvsource kothernumeric kprimarynumeric krsunicode lb lc",
    "linebreak lowercasemapping na na1 name namealias nfcqc nfcquickcheck nfdqc nfdquickcheck",
    "nfkccasefold nfkccf nfkcqc nfkcquickcheck nfkcscf nfkcsimplecasefold nfkdqc nfkdquickcheck",
    "nt numerictype numericvalue nv ocomment scf sfc simplecasefolding simplelowercasemapping",
    "simpletitlecasemapping simpleuppercasemapping slc stc suc tc titlecasemapping uc",
    "unicode1name unicoderadicalstroke uppercasemapping urs verticalorientation vo xonfc xonfd",
    "xonfkc xonfkd"]

/-- The entry that has a name. -/
def named {α : Type} (entries : List (List Text × α)) (name : Text) : Option α :=
  (entries.find? fun e => e.1.contains name).map Prod.snd

/-- The property of a name. -/
def property? (name : Text) : Option PropertyKind :=
  (named properties name).orElse fun _ => if otherProperties.contains name then some .unsupported else none

/-- Groups of general categories. -/
def categoryGroups : List (List Text × CharSet) :=
  [(["any"], .scalars), (["assigned"], Category.assigned), (["ascii"], .ofRange 0 0x7F),
    (["l", "letter"], Category.letter), (["lc", "casedletter"], Category.among ["lu", "ll", "lt"]),
    (["m", "mark", "combiningmark"], Category.mark), (["n", "number"], Category.among ["nd", "nl", "no"]),
    (["p", "punctuation", "punct"], Category.among ["pc", "pd", "ps", "pe", "pi", "pf", "po"]),
    (["s", "symbol"], Category.among ["sm", "sc", "sk", "so"]),
    (["z", "separator"], Category.among ["zs", "zl", "zp"]),
    (["c", "other"], (Category.among ["cc", "cf", "co"]).union Category.unassigned),
    (["cn", "unassigned"], Category.unassigned)]

/-- A set that has a name, but no characters to match. -/
def emptyNames : List Text := ["cs", "surrogate", "unknown", "zzzz", "katakanaorhiragana", "hrkt"]

/-- The general category of a name. -/
def category? (name : Text) : Option CharSet :=
  (named Category.all name).orElse fun _ => named categoryGroups name

/-- The set of a name without a value: a property, a category or a script. The short names of
two categories and a group of them count before the properties of that name. -/
def bareSet (name : Text) : Except FaultKind CharSet :=
  let ofValue : Except FaultKind CharSet :=
    match category? name, Script.named? name with
    | some set, _ => .ok set
    | none, some script => .ok script.2
    | none, none => .error (if emptyNames.contains name then .propertyValueNotFound else .propertyNotFound)
  if name = "cf" || name = "sc" || name = "lc" then ofValue
  else
    match property? name with
    | some (.trait set) => .ok set
    | some _ => .error .propertyNotFound
    | none => ofValue

/-- The set of a property with a value. -/
def valueSet (name value : Text) : Except FaultKind CharSet :=
  match property? name with
  | none => .error .propertyNotFound
  | some kind =>
    let set? : Option CharSet :=
      match kind with
      | .category => category? value
      | .script => (Script.named? value).map Prod.snd
      | .scriptExtensions => (Script.named? value).map Script.users
      | .age => Age.upTo? value
      | .boundary parts => named parts value
      | .trait _ | .unsupported => none
    match set? with
    | some set => .ok set
    | none => .error .propertyValueNotFound

/-- The set of a property: `name`, or `name=value`. -/
def propertySet (s : Span) (name : Text) (value : Option Text) : Except Fault CharSet :=
  let found := match value with
    | none => bareSet (plainName name)
    | some value => valueSet (plainName name) (plainName value)
  match found with
  | .ok set => .ok set
  | .error kind => .error ⟨kind, s, none⟩

end WrapShell.Regex
