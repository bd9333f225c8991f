import Signpost.Unicode.Segmentation
import Signpost.Unicode.Version

/-! Finding a Unicode set by name. Names compare in a folded spelling: without case, blanks,
underscores, hyphens, non-ASCII characters or a leading "is". -/
namespace Signpost.Unicode

def foldedSpelling (name : List Char) : List Char :=
  (name.filter fun c => c.val < 128 && !(c == ' ' || c == '_' || c == '-')).map Char.toLower

/- A leading "is" is dropped, except that "isc" names another property than "c". -/
def foldedName (name : List Char) : String :=
  match name with
  | i :: s :: rest =>
    if i.toLower == 'i' && s.toLower == 's' then
      let tail := foldedSpelling rest
      String.ofList (if tail == ['c'] then ['i', 's', 'c'] else tail)
    else String.ofList (foldedSpelling name)
  | _ => String.ofList (foldedSpelling name)

/- The categories that a name for several of them stands for, with the unassigned code
points added for the last. -/
def categoryGroups : NamedSets :=
  [(["l", "letter"], categories letters),
   (["lc", "casedletter"], categories [.uppercaseLetter, .lowercaseLetter, .titlecaseLetter]),
   (["m", "mark", "combiningmark"], categories marks),
   (["n", "number"], numeric),
   (["p", "punctuation", "punct"], categories [.connectorPunctuation, .dashPunctuation,
      .openPunctuation, .closePunctuation, .initialPunctuation, .finalPunctuation,
      .otherPunctuation]),
   (["s", "symbol"], categories [.mathSymbol, .currencySymbol, .modifierSymbol, .otherSymbol]),
   (["z", "separator"], categories [.spaceSeparator, .lineSeparator, .paragraphSeparator]),
   (["c", "other"], .union (.compl assigned)
      (categories [.control, .format, .privateUse])),
   (["cn", "unassigned"], .compl assigned),
   (["any"], .compl .empty),
   (["assigned"], assigned),
   (["ascii"], .range (Char.ofNat 0) (Char.ofNat 127))]

def patternCharacters : CharSet :=
  .union (Property.set .patternSyntax) (Property.set .patternWhiteSpace)

def idStart : CharSet :=
  .union (.diff (categories (.letterNumber :: letters)) patternCharacters)
    (Property.set .otherIdStart)

def idContinue : CharSet :=
  .unionAll [idStart, categories [.nonspacingMark, .spacingMark, .decimalNumber,
    .connectorPunctuation], Property.set .otherIdContinue]

/- Titlecase letters and those of Georgian stay; the digraphs in upper case do not. -/
def changesWhenTitlecased : CharSet :=
  .union (.chars ['\u01c4', '\u01c7', '\u01ca', '\u01f1'])
    (.diff (Property.set .changesWhenUppercased)
      (.union (Category.set .titlecaseLetter) (.range '\u10d0' '\u10ff')))

def derivedProperties : NamedSets :=
  [(["alphabetic", "alpha"], alphabetic),
   (["lowercase", "lower"], lowercase),
   (["uppercase", "upper"], uppercase),
   (["cased"], .unionAll [lowercase, uppercase, Category.set .titlecaseLetter]),
   (["caseignorable", "ci"], .union (categories [.nonspacingMark, .enclosingMark, .format,
      .modifierLetter, .modifierSymbol]) (Property.set .otherCaseIgnorable)),
   (["math"], .union (Category.set .mathSymbol) (Property.set .otherMath)),
   (["graphemeextend", "grext"], graphemeExtend),
   (["graphemebase", "grbase"], .diff assigned (.union graphemeExtend
      (categories [.control, .format, .privateUse, .lineSeparator,
        .paragraphSeparator]))),
   (["defaultignorablecodepoint", "di"], defaultIgnorable),
   (["changeswhentitlecased", "cwt"], changesWhenTitlecased),
   (["changeswhencasemapped", "cwcm"], .unionAll [changesWhenTitlecased,
      Property.set .changesWhenLowercased, Property.set .changesWhenUppercased]),
   (["changeswhencasefolded", "cwcf"], .union (Property.set .otherCaseFolded)
      (.diff (Property.set .changesWhenLowercased) (.range '\u13a0' '\u13f5'))),
   (["idcompatmathcontinue"], .union (Property.set .idCompatMathStart)
      (runs "178 2 5 1 8118 1 3 11 1 15")),
   (["idstart", "ids"], idStart),
   (["idcontinue", "idc"], idContinue),
   (["xidstart", "xids"], .diff idStart (Property.set .nonIdStart)),
   (["xidcontinue", "xidc"], .diff idContinue (Property.set .nonIdContinue))]

def lookUp? (table : NamedSets) (name : String) : Option CharSet :=
  (table.find? fun row => row.1.contains name).map Prod.snd

def property? (name : String) : Option CharSet :=
  (lookUp? derivedProperties name).or
    ((Property.all.find? fun p => p.names.contains name).map Property.set)

def category? (name : String) : Option CharSet :=
  (lookUp? categoryGroups name).or
    ((Category.all.find? fun c => c.names.contains name).map Category.set)

def Script.set (s : Script) : CharSet := .table (.ofRuns s.runs)

def Script.extendedSet (s : Script) : CharSet :=
  if s.names.contains "common" then .diff s.set (.table (.ofRuns Script.lentCommon))
  else if s.names.contains "inherited" then .diff s.set (.table (.ofRuns Script.lentInherited))
  else .union s.set (.table (.ofRuns s.shared))

def script? (name : String) : Option Script := Script.all.find? fun s => s.names.contains name

/- A bare name is first a property, then a category, then a script. -/
def named? (name : List Char) : Option CharSet :=
  let name := foldedName name
  ((property? name).or (category? name)).or ((script? name).map Script.set)

def age? (name : String) : Option CharSet :=
  (Version.through? name).map fun vs => .unionAll (vs.map fun v => runs v.runs)

def valued? (key value : List Char) : Option CharSet :=
  let value := foldedName value
  match foldedName key with
  | "gc" | "generalcategory" => category? value
  | "sc" | "script" => (script? value).map Script.set
  | "scx" | "scriptextensions" => (script? value).map Script.extendedSet
  | "age" => age? value
  | "gcb" | "graphemeclusterbreak" => lookUp? graphemeBreaks value
  | "wb" | "wordbreak" => lookUp? wordBreaks value
  | "sb" | "sentencebreak" => lookUp? sentenceBreaks value
  | _ => none

end Signpost.Unicode
