import VendorCli.Text.Table
/-!
# General categories

Every character has one general category: it is a letter of some kind, a mark, a number,
punctuation, a symbol, a separator, or none of these. The table lists the runs of consecutive code
points of one category: each entry is the distance from the start of the run before it, in base
sixteen, and the two letters of the category.

* `Category.ofChar` — the category of a character;
* `Category.named?` — the categories that a name stands for: one, or all of a group.
-/

namespace VendorCli.Text

/-- The general category of a character. -/
inductive Category where
  | uppercaseLetter
  | lowercaseLetter
  | titlecaseLetter
  | modifierLetter
  | otherLetter
  | nonspacingMark
  | spacingMark
  | enclosingMark
  | decimalNumber
  | letterNumber
  | otherNumber
  | connectorPunctuation
  | dashPunctuation
  | openPunctuation
  | closePunctuation
  | initialPunctuation
  | finalPunctuation
  | otherPunctuation
  | mathSymbol
  | currencySymbol
  | modifierSymbol
  | otherSymbol
  | spaceSeparator
  | lineSeparator
  | paragraphSeparator
  | control
  | format
  | surrogate
  | privateUse
  | unassigned
deriving DecidableEq, Repr

namespace Category

/-- Every category with its two letters and its name, written without case and separators. -/
def names : List (Category × Text × Text) :=
  [(.uppercaseLetter, "lu", "uppercaseletter"), (.lowercaseLetter, "ll", "lowercaseletter"),
   (.titlecaseLetter, "lt", "titlecaseletter"), (.modifierLetter, "lm", "modifierletter"),
   (.otherLetter, "lo", "otherletter"), (.nonspacingMark, "mn", "nonspacingmark"),
   (.spacingMark, "mc", "spacingmark"), (.enclosingMark, "me", "enclosingmark"),
   (.decimalNumber, "nd", "decimalnumber"), (.letterNumber, "nl", "letternumber"),
   (.otherNumber, "no", "othernumber"), (.connectorPunctuation, "pc", "connectorpunctuation"),
   (.dashPunctuation, "pd", "dashpunctuation"), (.openPunctuation, "ps", "openpunctuation"),
   (.closePunctuation, "pe", "closepunctuation"),
   (.initialPunctuation, "pi", "initialpunctuation"),
   (.finalPunctuation, "pf", "finalpunctuation"), (.otherPunctuation, "po", "otherpunctuation"),
   (.mathSymbol, "sm", "mathsymbol"), (.currencySymbol, "sc", "currencysymbol"),
   (.modifierSymbol, "sk", "modifiersymbol"), (.otherSymbol, "so", "othersymbol"),
   (.spaceSeparator, "zs", "spaceseparator"), (.lineSeparator, "zl", "lineseparator"),
   (.paragraphSeparator, "zp", "paragraphseparator"), (.control, "cc", "control"),
   (.format, "cf", "format"), (.surrogate, "cs", "surrogate"), (.privateUse, "co", "privateuse"),
   (.unassigned, "cn", "unassigned")]

/-- The category of two letters; unassigned where there is none. -/
def ofLetters (letters : Text) : Category :=
  ((names.find? fun row => row.2.1 = letters).map (·.1)).getD .unassigned

/-- The rows of the table. -/
def table : List String :=
  ["0cc 20zs 1po 3sc 1po 3ps 1pe 1po 1sm 1po 1pd 1po 2nd Apo 2sm 3po 2lu 1Aps 1po 1pe 1sk 1pc",
   "1sk 1ll 1Aps 1sm 1pe 1sm 1cc 21zs 1po 1sc 4so 1po 1sk 1so 1lo 1pi 1sm 1cf 1so 1sk 1so 1sm",
   "1no 2sk 1ll 1po 2sk 1no 1lo 1pf 1no 3po 1lu 17sm 1lu 7ll 18sm 1ll 8lu 1ll 1lu 1ll 1lu 1ll",
   "1lu 1ll 1lu 1ll 1lu 1ll 1lu 1ll 1lu 1ll 1lu 1ll 1lu 1ll 1lu 1ll 1lu 1ll 1lu 1ll 1lu 1ll",
   "1lu 1ll 1lu 1ll 1lu 1ll 1lu 1ll 1lu 1ll 1lu 1ll 1lu 1ll 1lu 1ll 1lu 1ll 1lu 1ll 1lu 1ll",
   "1lu 1ll 1lu 1ll 1lu 1ll 2lu 1ll 1lu 1ll 1lu 1ll 1lu 1ll 1lu 1ll 1lu 1ll 1lu 1ll 1lu 1ll",
   "2lu 1ll 1lu 1ll 1lu 1ll 1lu 1ll 1lu 1ll 1lu 1ll 1lu 1ll 1lu 1ll 1lu 1ll 1lu 1ll 1lu 1ll",
   "1lu 1ll 1lu 1ll 1lu 1ll 1lu 1ll 1lu 1ll 1lu 1ll 1lu 1ll 1lu 1ll 1lu 1ll 1lu 1ll 1lu 1ll",
   "1lu 1ll 1lu 2ll 1lu 1ll 1lu 1ll 3lu 2ll 1lu 1ll 1lu 2ll 1lu 3ll 2lu 4ll 1lu 2ll 1lu 3ll",
   "3lu 2ll 1lu 2ll 1lu 1ll 1lu 1ll 1lu 2ll 1lu 1ll 2lu 1ll 1lu 2ll 1lu 3ll 1lu 1ll 1lu 2ll",
   "2lo 1lu 1ll 3lo 4lu 1lt 1ll 1lu 1lt 1ll 1lu 1lt 1ll 1lu 1ll 1lu 1ll 1lu 1ll 1lu 1ll 1lu",
   "1ll 1lu 1ll 1lu 1ll 1lu 1ll 2lu 1ll 1lu 1ll 1lu 1ll 1lu 1ll 1lu 1ll 1lu 1ll 1lu 1ll 1lu",
   "1ll 1lu 1ll 2lu 1lt 1ll 1lu 1ll 1lu 3ll 1lu 1ll 1lu 1ll 1lu 1ll 1lu 1ll 1lu 1ll 1lu 1ll",
   "1lu 1ll 1lu 1ll 1lu 1ll 1lu 1ll 1lu 1ll 1lu 1ll 1lu 1ll 1lu 1ll 1lu 1ll 1lu 1ll 1lu 1ll",
   "1lu 1ll 1lu 1ll 1lu 1ll 1lu 1ll 1lu 1ll 1lu 1ll 1lu 1ll 1lu 1ll 1lu 1ll 1lu 1ll 1lu 1ll",
   "1lu 1ll 7lu 2ll 1lu 2ll 2lu 1ll 1lu 4ll 1lu 1ll 1lu 1ll 1lu 1ll 1lu 1ll 45lo 1ll 1Blm 12sk",
   "4lm Csk Elm 5sk 7lm 1sk 1lm 1sk 11mn 70lu 1ll 1lu 1ll 1lm 1sk 1lu 1ll 1cn 2lm 1ll 3po 1lu",
   "1cn 4sk 2lu 1po 1lu 3cn 1lu 1cn 1lu 2ll 1lu 11cn 1lu 9ll 23lu 1ll 2lu 3ll 3lu 1ll 1lu 1ll",
   "1lu 1ll 1lu 1ll 1lu 1ll 1lu 1ll 1lu 1ll 1lu 1ll 1lu 1ll 1lu 1ll 1lu 1ll 1lu 1ll 5lu 1ll",
   "1sm 1lu 1ll 1lu 2ll 2lu 33ll 30lu 1ll 1lu 1ll 1lu 1ll 1lu 1ll 1lu 1ll 1lu 1ll 1lu 1ll 1lu",
   "1ll 1lu 1ll 1lu 1ll 1lu 1ll 1lu 1ll 1lu 1ll 1lu 1ll 1lu 1ll 1lu 1ll 1lu 1ll 1so 1mn 5me",
   "2lu 1ll 1lu 1ll 1lu 1ll 1lu 1ll 1lu 1ll 1lu 1ll 1lu 1ll 1lu 1ll 1lu 1ll 1lu 1ll 1lu 1ll",
   "1lu 1ll 1lu 1ll 1lu 1ll 1lu 1ll 1lu 1ll 1lu 1ll 1lu 1ll 1lu 1ll 1lu 1ll 1lu 1ll 1lu 1ll",
   "1lu 1ll 1lu 1ll 1lu 1ll 1lu 1ll 1lu 1ll 1lu 2ll 1lu 1ll 1lu 1ll 1lu 1ll 1lu 1ll 1lu 1ll",
   "1lu 1ll 2lu 1ll 1lu 1ll 1lu 1ll 1lu 1ll 1lu 1ll 1lu 1ll 1lu 1ll 1lu 1ll 1lu 1ll 1lu 1ll",
   "1lu 1ll 1lu 1ll 1lu 1ll 1lu 1ll 1lu 1ll 1lu 1ll 1lu 1ll 1lu 1ll 1lu 1ll 1lu 1ll 1lu 1ll",
   "1lu 1ll 1lu 1ll 1lu 1ll 1lu 1ll 1lu 1ll 1lu 1ll 1lu 1ll 1lu 1ll 1lu 1ll 1lu 1ll 1lu 1ll",
   "1lu 1ll 1lu 1ll 1lu 1ll 1lu 1ll 1lu 1ll 1lu 1ll 1lu 1ll 1lu 1ll 1lu 1ll 1lu 1ll 1lu 1ll",
   "1lu 1ll 1lu 1ll 1lu 1ll 1lu 1ll 1lu 1ll 1cn 1lu 26cn 2lm 1po 6ll 29po 1pd 1cn 2so 2sc 1cn",
   "1mn 2Dpd 1mn 1po 1mn 2po 1mn 2po 1mn 1cn 8lo 1Bcn 4lo 4po 2cn Bcf 6sm 3po 2sc 1po 2so 2mn",
   "Bpo 1cf 1po 3lo 20lm 1lo Amn 15nd Apo 4lo 2mn 1lo 63po 1lo 1mn 7cf 1so 1mn 6lm 2mn 2so 1mn",
   "4lo 2nd Alo 3so 2lo 1po Ecn 1cf 1lo 1mn 1lo 1Emn 1Bcn 2lo 59mn Blo 1cn End Alo 21mn 9lm",
   "2so 1po 3lm 1cn 2mn 1sc 2lo 16mn 4lm 1mn 9lm 1mn 3lm 1mn 5cn 2po Fcn 1lo 19mn 3cn 2po 1cn",
   "1lo Bcn 5lo 18sk 1lo 6cn 1cf 2cn 6mn 8lo 29lm 1mn 18cf 1mn 20mc 1lo 36mn 1mc 1mn 1lo 1mc",
   "3mn 8mc 4mn 1mc 2lo 1mn 7lo Amn 2po 2nd Apo 1lm 1lo Fmn 1mc 2cn 1lo 8cn 2lo 2cn 2lo 16cn",
   "1lo 7cn 1lo 1cn 3lo 4cn 2mn 1lo 1mc 3mn 4cn 2mc 2cn 2mc 2mn 1lo 1cn 8mc 1cn 4lo 2cn 1lo",
   "3mn 2cn 2nd Alo 2sc 2no 6so 1sc 1lo 1po 1mn 1cn 2mn 2mc 1cn 1lo 6cn 4lo 2cn 2lo 16cn 1lo",
   "7cn 1lo 2cn 1lo 2cn 1lo 2cn 2mn 1cn 1mc 3mn 2cn 4mn 2cn 2mn 3cn 3mn 1cn 7lo 4cn 1lo 1cn",
   "7nd Amn 2lo 3mn 1po 1cn Amn 2mc 1cn 1lo 9cn 1lo 3cn 1lo 16cn 1lo 7cn 1lo 2cn 1lo 5cn 2mn",
   "1lo 1mc 3mn 5cn 1mn 2mc 1cn 1mc 2mn 1cn 2lo 1cn Flo 2mn 2cn 2nd Apo 1sc 1cn 7lo 1mn 6cn",
   "1mn 1mc 2cn 1lo 8cn 2lo 2cn 2lo 16cn 1lo 7cn 1lo 2cn 1lo 5cn 2mn 1lo 1mc 1mn 1mc 1mn 4cn",
   "2mc 2cn 2mc 2mn 1cn 7mn 2mc 1cn 4lo 2cn 1lo 3mn 2cn 2nd Aso 1lo 1no 6cn Amn 1lo 1cn 1lo",
   "6cn 3lo 3cn 1lo 4cn 3lo 2cn 1lo 1cn 1lo 2cn 3lo 2cn 3lo 3cn 3lo Ccn 4mc 2mn 1mc 2cn 3mc",
   "3cn 1mc 3mn 1cn 2lo 1cn 6mc 1cn End Ano 3so 6sc 1so 1cn 5mn 1mc 3mn 1lo 8cn 1lo 3cn 1lo",
   "17cn 1lo 10cn 2mn 1lo 1mn 3mc 4cn 1mn 3cn 1mn 4cn 7mn 2cn 1lo 3cn 2lo 1cn 2lo 2mn 2cn 2nd",
   "Acn 7po 1no 7so 1lo 1mn 1mc 2po 1lo 8cn 1lo 3cn 1lo 17cn 1lo Acn 1lo 5cn 2mn 1lo 1mc 1mn",
   "1mc 5cn 1mn 1mc 2cn 1mc 2mn 2cn 7mc 2cn 6lo 2cn 1lo 2mn 2cn 2nd Acn 1lo 2mc 1cn Cmn 2mc",
   "2lo 9cn 1lo 3cn 1lo 29mn 2lo 1mc 3mn 4cn 1mc 3cn 1mc 3mn 1lo 1so 1cn 4lo 3mc 1no 7lo 3mn",
   "2cn 2nd Ano 9so 1lo 6cn 1mn 1mc 2cn 1lo 12cn 3lo 18cn 1lo 9cn 1lo 1cn 2lo 7cn 3mn 1cn 4mc",
   "3mn 3cn 1mn 1cn 1mc 8cn 6nd Acn 2mc 2po 1cn Clo 30mn 1lo 2mn 7cn 4sc 1lo 6lm 1mn 8po 1nd",
   "Apo 2cn 25lo 2cn 1lo 1cn 1lo 5cn 1lo 18cn 1lo 1cn 1lo Amn 1lo 2mn 9lo 1cn 2lo 5cn 1lm 1cn",
   "1mn 7cn 1nd Acn 2lo 4cn 20lo 1so 3po Fso 1po 1so 3mn 2so 6nd Ano Aso 1mn 1so 1mn 1so 1mn",
   "1ps 1pe 1ps 1pe 1mc 2lo 8cn 1lo 24cn 4mn Emc 1mn 5po 1mn 2lo 5mn Bcn 1mn 24cn 1so 8mn 1so",
   "6cn 1so 2po 5so 4po 2cn 25lo 2Bmc 2mn 4mc 1mn 6mc 1mn 2mc 2mn 2lo 1nd Apo 6lo 6mc 2mn 2lo",
   "4mn 3lo 1mc 3lo 2mc 7lo 3mn 4lo Dmn 1mc 2mn 2mc 6mn 1lo 1mc 1nd Amc 3mn 1so 2lu 26cn 1lu",
   "1cn 5lu 1cn 2ll 2Bpo 1lm 1ll 3lo 149cn 1lo 4cn 2lo 7cn 1lo 1cn 1lo 4cn 2lo 29cn 1lo 4cn",
   "2lo 21cn 1lo 4cn 2lo 7cn 1lo 1cn 1lo 4cn 2lo Fcn 1lo 39cn 1lo 4cn 2lo 43cn 2mn 3po 9no",
   "14cn 3lo 10so Acn 6lu 56cn 2ll 6cn 2pd 1lo 26Cso 1po 1lo 11zs 1lo 1Aps 1pe 1cn 3lo 4Bpo",
   "3nl 3lo 8cn 7lo 12mn 3mc 1cn 9lo 13mn 2mc 1po 2cn 9lo 12mn 2cn Clo Dcn 1lo 3cn 1mn 2cn Clo",
   "34mn 2mc 1mn 7mc 8mn 1mc 2mn Bpo 3lm 1po 3sc 1lo 1mn 1cn 2nd Acn 6no Acn 6po 6pd 1po 4mn",
   "3cf 1mn 1nd Acn 6lo 23lm 1lo 35cn 7lo 5mn 2lo 22mn 1lo 1cn 5lo 46cn Alo 1Fcn 1mn 3mc 4mn",
   "2mc 3cn 4mc 2mn 1mc 6mn 3cn 4so 1cn 3po 2nd Alo 1Ecn 2lo 5cn Blo 2Ccn 4lo 1Acn 6nd Ano 1cn",
   "3so 22lo 17mn 2mc 2mn 1cn 2po 2lo 35mc 1mn 1mc 1mn 7cn 1mn 1mc 1mn 1mc 2mn 8mc 6mn Acn 2mn",
   "1nd Acn 6nd Acn 6po 7lm 1po 6cn 2mn Eme 1mn 10cn 31mn 4mc 1lo 2Fmn 1mc 1mn 5mc 1mn 1mc 5mn",
   "1mc 2lo 8cn 3nd Apo 7so Amn 9so 9po 2cn 1mn 2mc 1lo 1Emc 1mn 4mc 2mn 2mc 1mn 3lo 2nd Alo",
   "2Cmn 1mc 1mn 2mc 3mn 1mc 1mn 3mc 2cn 8po 4lo 24mc 8mn 8mc 2mn 2cn 3po 5nd Acn 3lo 3nd Alo",
   "1Elm 6po 2ll 9cn 7lu 2Bcn 2lu 3po 8cn 8mn 3po 1mn Dmc 1mn 7lo 4mn 1lo 6mn 1lo 2mc 1mn 2lo",
   "1cn 5ll 2Clm 3Fll Dlm 1ll 22lm 25mn 40lu 1ll 1lu 1ll 1lu 1ll 1lu 1ll 1lu 1ll 1lu 1ll 1lu",
   "1ll 1lu 1ll 1lu 1ll 1lu 1ll 1lu 1ll 1lu 1ll 1lu 1ll 1lu 1ll 1lu 1ll 1lu 1ll 1lu 1ll 1lu",
   "1ll 1lu 1ll 1lu 1ll 1lu 1ll 1lu 1ll 1lu 1ll 1lu 1ll 1lu 1ll 1lu 1ll 1lu 1ll 1lu 1ll 1lu",
   "1ll 1lu 1ll 1lu 1ll 1lu 1ll 1lu 1ll 1lu 1ll 1lu 1ll 1lu 1ll 1lu 1ll 1lu 1ll 1lu 1ll 1lu",
   "1ll 1lu 1ll 1lu 1ll 1lu 1ll 1lu 1ll 1lu 1ll 1lu 1ll 1lu 1ll 1lu 1ll 1lu 1ll 1lu 1ll 1lu",
   "1ll 1lu 1ll 1lu 1ll 1lu 1ll 1lu 1ll 1lu 1ll 1lu 1ll 1lu 1ll 1lu 1ll 1lu 1ll 1lu 1ll 1lu",
   "1ll 1lu 1ll 1lu 1ll 1lu 1ll 1lu 1ll 1lu 1ll 1lu 1ll 1lu 1ll 1lu 1ll 1lu 1ll 1lu 1ll 1lu",
   "1ll 1lu 1ll 1lu 1ll 9lu 1ll 1lu 1ll 1lu 1ll 1lu 1ll 1lu 1ll 1lu 1ll 1lu 1ll 1lu 1ll 1lu",
   "1ll 1lu 1ll 1lu 1ll 1lu 1ll 1lu 1ll 1lu 1ll 1lu 1ll 1lu 1ll 1lu 1ll 1lu 1ll 1lu 1ll 1lu",
   "1ll 1lu 1ll 1lu 1ll 1lu 1ll 1lu 1ll 1lu 1ll 1lu 1ll 1lu 1ll 1lu 1ll 1lu 1ll 1lu 1ll 1lu",
   "1ll 1lu 1ll 1lu 1ll 1lu 1ll 1lu 1ll 1lu 1ll 1lu 1ll 1lu 1ll 1lu 1ll 1lu 1ll 1lu 1ll 1lu",
   "1ll 1lu 1ll 1lu 1ll 1lu 1ll 1lu 1ll 1lu 1ll 1lu 1ll 1lu 1ll 9lu 8ll 6cn 2lu 6cn 2ll 8lu",
   "8ll 8lu 8ll 6cn 2lu 6cn 2ll 8cn 1lu 1cn 1lu 1cn 1lu 1cn 1lu 1ll 8lu 8ll Ecn 2ll 8lt 8ll",
   "8lt 8ll 8lt 8ll 5cn 1ll 2lu 4lt 1sk 1ll 1sk 3ll 3cn 1ll 2lu 4lt 1sk 3ll 4cn 2ll 2lu 4cn",
   "1sk 3ll 8lu 5sk 3cn 2ll 3cn 1ll 2lu 4lt 1sk 2cn 1zs Bcf 5pd 6po 2pi 1pf 1ps 1pi 2pf 1ps",
   "1pi 1po 8zl 1zp 1cf 5zs 1po 9pi 1pf 1po 4pc 2po 3sm 1ps 1pe 1po Bsm 1po 1pc 1po Azs 1cf",
   "5cn 1cf Ano 1lm 1cn 2no 6sm 3ps 1pe 1lm 1no Asm 3ps 1pe 1cn 1lm Dcn 3sc 21cn Fmn Dme 4mn",
   "1me 3mn Ccn Fso 2lu 1so 4lu 1so 2ll 1lu 3ll 2lu 3ll 1so 1lu 1so 2sm 1lu 5so 6lu 1so 1lu",
   "1so 1lu 1so 1lu 4so 1ll 1lu 4ll 1lo 4ll 1so 2ll 2lu 2sm 5lu 1ll 4so 1sm 1so 2ll 1so 1no",
   "10nl 23lu 1ll 1nl 4no 1so 2cn 4sm 5so 5sm 2so 4sm 1so 2sm 1so 2sm 1so 7sm 1so 1Fsm 2so 2sm",
   "1so 1sm 1so 1Fsm 10Cso 8ps 1pe 1ps 1pe 1so 14sm 2so 7ps 1pe 1so 51sm 1so 1Esm 19so 28sm",
   "6so 45cn 19so Bcn 15no 3Cso 4Eno 16so B7sm 1so 9sm 1so 36sm 8so 6Fsm 1so F8ps 1pe 1ps 1pe",
   "1ps 1pe 1ps 1pe 1ps 1pe 1ps 1pe 1ps 1pe 1no 1Eso 2Csm 5ps 1pe 1sm 1Fps 1pe 1ps 1pe 1ps 1pe",
   "1ps 1pe 1ps 1pe 1sm 10so 100sm 83ps 1pe 1ps 1pe 1ps 1pe 1ps 1pe 1ps 1pe 1ps 1pe 1ps 1pe",
   "1ps 1pe 1ps 1pe 1ps 1pe 1ps 1pe 1sm 3Fps 1pe 1ps 1pe 1sm 20ps 1pe 1sm 102so 30sm 15so 2sm",
   "6so 27cn 2so 20cn 1so 69lu 30ll 30lu 1ll 1lu 3ll 2lu 1ll 1lu 1ll 1lu 1ll 1lu 4ll 1lu 1ll",
   "2lu 1ll 6lm 2lu 3ll 1lu 1ll 1lu 1ll 1lu 1ll 1lu 1ll 1lu 1ll 1lu 1ll 1lu 1ll 1lu 1ll 1lu",
   "1ll 1lu 1ll 1lu 1ll 1lu 1ll 1lu 1ll 1lu 1ll 1lu 1ll 1lu 1ll 1lu 1ll 1lu 1ll 1lu 1ll 1lu",
   "1ll 1lu 1ll 1lu 1ll 1lu 1ll 1lu 1ll 1lu 1ll 1lu 1ll 1lu 1ll 1lu 1ll 1lu 1ll 1lu 1ll 1lu",
   "1ll 1lu 1ll 1lu 1ll 1lu 1ll 1lu 1ll 1lu 1ll 1lu 1ll 1lu 1ll 1lu 1ll 1lu 1ll 1lu 1ll 1lu",
   "1ll 1lu 1ll 1lu 1ll 1lu 1ll 1lu 1ll 1lu 1ll 1lu 1ll 1lu 1ll 2so 6lu 1ll 1lu 1ll 1mn 3lu",
   "1ll 1cn 5po 4no 1po 2ll 26cn 1ll 1cn 5ll 1cn 2lo 38cn 7lm 1po 1cn Emn 1lo 17cn 9lo 7cn 1lo",
   "7cn 1lo 7cn 1lo 7cn 1lo 7cn 1lo 7cn 1lo 7cn 1lo 7cn 1mn 20po 2pi 1pf 1pi 1pf 1po 3pi 1pf",
   "1po 1pi 1pf 1po 9pd 1po 2pd 1po 1pi 1pf 1po 2pi 1pf 1ps 1pe 1ps 1pe 1ps 1pe 1ps 1pe 1po",
   "5lm 1po Apd 2po 4pd 1po 1ps 1po Dso 2po 3ps 1pe 1ps 1pe 1ps 1pe 1ps 1pe 1pd 1cn 22so 1Acn",
   "1so 59cn Cso D6cn 1Aso Ccn 4zs 1po 3so 1lm 1lo 1nl 1ps 1pe 1ps 1pe 1ps 1pe 1ps 1pe 1ps 1pe",
   "1so 2ps 1pe 1ps 1pe 1ps 1pe 1ps 1pe 1pd 1ps 1pe 2so 1nl 9mn 4mc 2pd 1lm 5so 2nl 3lm 1lo",
   "1po 1so 2cn 1lo 56cn 2mn 2sk 2lm 2lo 1pd 1lo 5Apo 1lm 3lo 1cn 5lo 2Bcn 1lo 5Ecn 1so 2no",
   "4so Alo 20so 24cn Clo 10so 1Fcn 1no Aso 1Eno 8so 1no Fso 20no Aso 27no Fso 140lo 19C0so",
   "40lo 5215lm 1lo 477cn 3so 37cn 9lo 28lm 6po 2lo 10Clm 1po 3lo 10nd Alo 2cn 14lu 1ll 1lu",
   "1ll 1lu 1ll 1lu 1ll 1lu 1ll 1lu 1ll 1lu 1ll 1lu 1ll 1lu 1ll 1lu 1ll 1lu 1ll 1lu 1ll 1lu",
   "1ll 1lu 1ll 1lu 1ll 1lu 1ll 1lu 1ll 1lu 1ll 1lu 1ll 1lu 1ll 1lu 1ll 1lu 1ll 1lu 1ll 1lo",
   "1mn 1me 3po 1mn Apo 1lm 1lu 1ll 1lu 1ll 1lu 1ll 1lu 1ll 1lu 1ll 1lu 1ll 1lu 1ll 1lu 1ll",
   "1lu 1ll 1lu 1ll 1lu 1ll 1lu 1ll 1lu 1ll 1lu 1ll 1lm 2mn 2lo 46nl Amn 2po 6cn 8sk 17lm 9sk",
   "2lu 1ll 1lu 1ll 1lu 1ll 1lu 1ll 1lu 1ll 1lu 1ll 1lu 1ll 3lu 1ll 1lu 1ll 1lu 1ll 1lu 1ll",
   "1lu 1ll 1lu 1ll 1lu 1ll 1lu 1ll 1lu 1ll 1lu 1ll 1lu 1ll 1lu 1ll 1lu 1ll 1lu 1ll 1lu 1ll",
   "1lu 1ll 1lu 1ll 1lu 1ll 1lu 1ll 1lu 1ll 1lu 1ll 1lu 1ll 1lu 1ll 1lu 1ll 1lu 1ll 1lu 1ll",
   "1lu 1ll 1lu 1ll 1lu 1ll 1lu 1ll 1lu 1ll 1lm 1ll 8lu 1ll 1lu 1ll 1lu 2ll 1lu 1ll 1lu 1ll",
   "1lu 1ll 1lu 1ll 1lm 1sk 2lu 1ll 1lu 1ll 1lo 1lu 1ll 1lu 1ll 3lu 1ll 1lu 1ll 1lu 1ll 1lu",
   "1ll 1lu 1ll 1lu 1ll 1lu 1ll 1lu 1ll 1lu 1ll 1lu 1ll 1lu 5ll 1lu 5ll 1lu 1ll 1lu 1ll 1lu",
   "1ll 1lu 1ll 1lu 1ll 1lu 1ll 1lu 1ll 1lu 4ll 1lu 1ll 1cn 5lu 1ll 1cn 1ll 1cn 1ll 1lu 1ll",
   "1lu 1ll 1cn 18lm 3lu 1ll 1lo 1lm 2ll 1lo 7mn 1lo 3mn 1lo 4mn 1lo 17mc 2mn 2mc 1so 4mn 1cn",
   "3no 6so 2sc 1so 1cn 6lo 34po 4cn 8mc 2lo 32mc 10mn 2cn 8po 2nd Acn 6mn 12lo 6po 3lo 1po",
   "1lo 2mn 1nd Alo 1Cmn 8po 2lo 17mn Bmc 2cn Bpo 1lo 1Dcn 3mn 3mc 1lo 2Fmn 1mc 2mn 4mc 2mn",
   "2mc 3po Dcn 1lm 1nd Acn 4po 2lo 5mn 1lm 1lo 9nd Alo 5cn 1lo 29mn 6mc 2mn 2mc 2mn 2cn 9lo",
   "3mn 1lo 8mn 1mc 1cn 2nd Acn 2po 4lo 10lm 1lo 6so 3lo 1mc 1mn 1mc 1lo 32mn 1lo 1mn 3lo 2mn",
   "2lo 5mn 2lo 1mn 1lo 1cn 18lo 2lm 1po 2lo Bmc 1mn 2mc 2po 2lo 1lm 2mc 1mn 1cn Alo 6cn 2lo",
   "6cn 2lo 6cn 9lo 7cn 1lo 7cn 1ll 2Bsk 1lm 4ll 9lm 1sk 2cn 4ll 50lo 23mc 2mn 1mc 2mn 1mc 2po",
   "1mc 1mn 1cn 2nd Acn 6lo 2BA4cn Clo 17cn 4lo 31cn 4cs 800co 1900lo 16Ecn 2lo 6Acn 26ll 7cn",
   "Cll 5cn 5lo 1mn 1lo Asm 1lo Dcn 1lo 5cn 1lo 1cn 1lo 2cn 1lo 2cn 1lo 6Csk 11cn 10lo 16Bpe",
   "1ps 1so 10lo 40cn 2lo 36cn 7so 1cn 20lo Csc 1so 3mn 10po 7ps 1pe 1po 1cn 6mn 10po 1pd 2pc",
   "2ps 1pe 1ps 1pe 1ps 1pe 1ps 1pe 1ps 1pe 1ps 1pe 1ps 1pe 1ps 1pe 1po 2ps 1pe 1po 4pc 3po",
   "3cn 1po 4pd 1ps 1pe 1ps 1pe 1ps 1pe 1po 3sm 1pd 1sm 3cn 1po 1sc 1po 2cn 4lo 5cn 1lo 87cn",
   "2cf 1cn 1po 3sc 1po 3ps 1pe 1po 1sm 1po 1pd 1po 2nd Apo 2sm 3po 2lu 1Aps 1po 1pe 1sk 1pc",
   "1sk 1ll 1Aps 1sm 1pe 1sm 1ps 1pe 1po 1ps 1pe 1po 2lo Alm 1lo 2Dlm 2lo 1Fcn 3lo 6cn 2lo 6cn",
   "2lo 6cn 2lo 3cn 3sc 2sm 1sk 1so 1sc 2cn 1so 1sm 4so 2cn Acf 3so 2cn 2lo Ccn 1lo 1Acn 1lo",
   "13cn 1lo 2cn 1lo Fcn 2lo Ecn 22lo 7Bcn 5po 3cn 4no 2Dcn 3so 9nl 35no 4so 11no 2so 3cn 1so",
   "Dcn 3so 1cn 2Fso 2Dmn 1cn 82lo 1Dcn 3lo 31cn Fmn 1no 1Bcn 4lo 20no 4cn 9lo 14nl 1lo 8nl",
   "1cn 5lo 26mn 5cn 5lo 1Ecn 1po 1lo 24cn 4lo 8po 1nl 5cn 2Alu 28ll 28lo 4Ecn 2nd Acn 6lu",
   "24cn 4ll 24cn 4lo 28cn 8lo 34cn Bpo 1lu Bcn 1lu Fcn 1lu 7cn 1lu 2cn 1ll Bcn 1ll Fcn 1ll",
   "7cn 1ll 2cn 43lo 137cn 9lo 16cn Alo 8cn 18lm 6cn 1lm 2Acn 1lm 9cn 45lo 6cn 2lo 1cn 1lo",
   "2Ccn 1lo 2cn 3lo 1cn 2lo 17cn 1po 1no 8lo 17so 2no 7lo 1Fcn 8no 9cn 30lo 13cn 1lo 2cn 5no",
   "5lo 16no 6cn 3po 1lo 1Acn 5po 1cn 40lo 38cn 4no 2lo 2no 10cn 2no 2Elo 1mn 3cn 1mn 2cn 5mn",
   "4lo 4cn 1lo 3cn 1lo 1Dcn 2mn 3cn 4mn 1no 9cn 7po 9cn 7lo 1Dno 2po 1lo 1Dno 3cn 20lo 8so",
   "1lo 1Cmn 2cn 4no 5po 7cn 9lo 36cn 3po 7lo 16cn 2no 8lo 13cn 5no 8lo 12cn 7po 4cn Cno 7cn",
   "50lo 49cn 37lu 33cn Dll 33cn 7no 6lo 24mn 4cn 8nd Acn 126no 1Fcn 1lo 2Acn 1mn 2pd 1cn 2lo",
   "2cn 4Bmn 3lo 1Dno Alo 1cn 8lo 16mn Bno 4po 5cn 16lo 12mn 4po 4cn 26lo 15no 7cn 14lo 17cn",
   "9mc 1mn 1mc 1lo 35mn Fpo 7cn 4no 14nd Amn 1lo 2mn 2lo 1cn 9mn 3mc 1lo 2Dmc 3mn 4mc 2mn 2po",
   "2cf 1po 4mn 1cn Acf 1cn 2lo 19cn 7nd Acn 6mn 3lo 24mn 5mc 1mn 8cn 1nd Apo 4lo 1mc 2lo 1cn",
   "8lo 23mn 1po 2lo 1cn 9mn 2mc 1lo 30mc 3mn 9mc 2lo 4po 4mn 4po 1mc 1mn 1nd Alo 1po 1lo 1po",
   "3cn 1no 14cn Blo 12cn 1lo 19mc 3mn 3mc 2mn 1mc 1mn 2po 6mn 1lo 2mn 1cn 3Elo 7cn 1lo 1cn",
   "1lo 4cn 1lo Fcn 1lo Apo 1cn 6lo 2Fmn 1mc 3mn 8cn 5nd Acn 6mn 2mc 2cn 1lo 8cn 2lo 2cn 2lo",
   "16cn 1lo 7cn 1lo 2cn 1lo 5cn 1mn 2lo 1mc 2mn 1mc 4cn 2mc 2cn 2mc 3cn 2lo 1cn 6mc 1cn 5lo",
   "5mc 2cn 2mn 7cn 3mn 5cn 8Blo 35mc 3mn 8mc 2mn 3mc 1mn 1lo 4po 5nd Apo 2cn 1po 1mn 1lo 3cn",
   "1Elo 30mc 3mn 6mc 1mn 1mc 4mn 2mc 1mn 2lo 2po 1lo 1cn 8nd Acn A6lo 2Fmc 3mn 4cn 2mc 4mn",
   "2mc 1mn 2po 17lo 4mn 2cn 22lo 30mc 3mn 8mc 2mn 1mc 1mn 2po 3lo 1cn Bnd Acn 6po Dcn 13lo",
   "2Bmn 1mc 1mn 1mc 2mn 6mc 1mn 1lo 1po 1cn 6nd Acn 36lo 1Bcn 2mn 3mc 2mn 4mc 1mn 5cn 4nd Ano",
   "2po 3so 1lo 7cn B9lo 2Cmc 3mn 9mc 1mn 2po 1cn 64lu 20ll 20nd Ano 9cn Clo 8cn 2lo 1cn 2lo",
   "8cn 1lo 2cn 1lo 18mc 6cn 1mc 2cn 2mn 2mc 1mn 1lo 1mc 1lo 1mc 1mn 1po 3cn 9nd Acn 46lo 8cn",
   "2lo 27mc 3mn 4cn 2mn 2mc 4mn 1lo 1po 1lo 1mc 1cn 1Blo 1mn Alo 28mn 6mc 1lo 1mn 4po 8mn 1cn",
   "8lo 1mn 6mc 2mn 3lo 2Emn Dmc 1mn 2po 3lo 1po 5cn Dlo 49cn 7po Acn F6lo 9cn 1lo 25mc 1mn",
   "7cn 1mn 6mc 1mn 1lo 1po 5cn And Ano 13cn 3po 2lo 1Ecn 2mn 16cn 1mc 1mn 7mc 1mn 2mc 1mn 2cn",
   "49lo 7cn 1lo 2cn 1lo 26mn 6cn 3mn 1cn 1mn 2cn 1mn 7lo 1mn 1cn 8nd Acn 6lo 6cn 1lo 2cn 1lo",
   "20mc 5cn 1mn 2cn 1mc 2mn 1mc 1mn 1lo 1cn 7nd Acn 136lo 13mn 2mc 2po 2cn 7mn 2lo 1mc 1lo",
   "Dcn 1lo 22mc 2mn 5cn 3mc 2mn 1mc 1mn 1po Dnd Acn 56lo 1cn Fno 15so 8sc 4so 11cn Dpo 1lo",
   "39Acn 66nl 6Fcn 1po 5cn Blo C4cn A4Clo 61po 2cn Dlo 430cf 10mn 1lo 6mn Fcn FAAlo 247cn",
   "21B9lo 239cn 7lo 1Fcn 1nd Acn 4po 2lo 4Fcn 1nd Acn 6lo 1Ecn 2mn 5po 1cn Alo 30mn 7po 5so",
   "4lm 4po 1so 1cn And Acn 1no 7cn 1lo 15cn 5lo 13cn 2B0lu 20ll 20no 17po 4cn 65lo 4Bcn 4mn",
   "1lo 1mc 37cn 7mn 4lm Dcn 40lm 2po 1lm 1mn 1cn Bmc 2cn Elo 17F8cn 8lo 4D6cn 2Alo 9cn 22E7lm",
   "4cn 1lm 7cn 1lm 2cn 1lo 123cn Flo 1cn 1Dlo 3cn 2lo 1cn Elo 4cn 8lo 18Ccn 904lo 6Bcn 5lo",
   "Dcn 3lo 9cn 7lo Acn 2so 1mn 2po 1cf 4cn 125Cmn 2Ecn 2mn 17cn 9so 74cn 3Cso F6cn Aso 27cn",
   "2so 3Cmc 2mn 3so 3mc 6cf 8mn 8so 2mn 7so 1Emn 4so 3Dcn 15so 42mn 3so 1cn 7Ano 14cn Cno",
   "14cn Cso 57cn 9no 19cn 87lu 1All 1Alu 1All 7cn 1ll 12lu 1All 1Alu 1cn 1lu 2cn 2lu 1cn 2lu",
   "2cn 2lu 4cn 1lu 8ll 4cn 1ll 1cn 1ll 7cn 1ll Blu 1All 1Alu 2cn 1lu 4cn 2lu 8cn 1lu 7cn 1ll",
   "1Alu 2cn 1lu 4cn 1lu 5cn 1lu 1cn 3lu 7cn 1ll 1Alu 1All 1Alu 1All 1Alu 1All 1Alu 1All 1Alu",
   "1All 1Alu 1All 1Ccn 2lu 19sm 1ll 19sm 1ll 6lu 19sm 1ll 19sm 1ll 6lu 19sm 1ll 19sm 1ll 6lu",
   "19sm 1ll 19sm 1ll 6lu 19sm 1ll 19sm 1ll 6lu 1ll 1cn 2nd 32so 200mn 37so 4mn 32so 8mn 1so",
   "Emn 1so 2po 5cn Fmn 5cn 1mn Fcn 450ll Alo 1ll 14cn 6ll 6cn D5mn 7cn 1mn 11cn 2mn 7cn 1mn",
   "2cn 1mn 5cn 5lm 3Ecn 21mn 1cn 70lo 2Dcn 3mn 7lm 7cn 2nd Acn 4lo 1so 1cn 140lo 1Emn 1cn",
   "11lo 2Cmn 4nd Acn 5sc 1cn 1D0lo 1Blm 1mn 4nd Acn 2E6lo 7cn 1lo 4cn 1lo 2cn 1lo Fcn 1lo",
   "C5cn 2no 9mn 7cn 29lu 22ll 22mn 7lm 1cn 4nd Acn 4po 2cn 311no 3Bso 1no 3sc 1no 4cn 4Cno",
   "2Dso 1no Fcn C2lo 4cn 1lo 1Bcn 1lo 2cn 1lo 1cn 2lo 1cn 1lo Acn 1lo 4cn 1lo 1cn 1lo 1cn 6lo",
   "1cn 4lo 1cn 1lo 1cn 1lo 1cn 1lo 3cn 1lo 2cn 1lo 1cn 2lo 1cn 1lo 1cn 1lo 1cn 1lo 1cn 1lo",
   "1cn 1lo 2cn 1lo 1cn 2lo 4cn 1lo 7cn 1lo 4cn 1lo 4cn 1lo 1cn 1lo Acn 1lo 11cn 5lo 3cn 1lo",
   "5cn 1lo 11cn 34sm 2cn 10Eso 2Ccn 4so 64cn Cso Fcn 2so Fcn 1so Fcn 1so 25cn Ano Dso A1cn",
   "38so 1Dcn Dso 2Ccn 4so 9cn 7so 2cn Eso 6cn 9Aso FBsk 5so 2D8cn 4so 11cn 3so Dcn 3so 77cn",
   "4so 5Fcn 6so Ccn 4so 1cn Fso Ccn 4so 38cn 8so Acn 6so 28cn 8so 1Ecn 2so 2cn 4Eso 154cn Cso",
   "Ecn 2so Dcn 3so 9cn 7so 2Ecn 1so 7cn 8so Ecn 4so 9cn 7so 9cn 7so 93cn 1so 37cn 25nd Acn",
   "406lo A6E0cn 20lo 103Acn 6lo DEcn 2lo 1682cn Elo 1D31cn C1Flo 21Ecn 5E2lo 134Bcn 5lo",
   "1060cn ADC51cf 1cn 1Ecf 60cn 80mn F0cn FE10co FFFEcn 2co FFFEcn"]

/-- The value of an upper case digit of base sixteen. -/
def hexDigitNat (c : Char) : Nat :=
  if c.isDigit then c.toNat - '0'.toNat else c.toNat - 'A'.toNat + 10

/-- The number that upper case digits of base sixteen stand for. -/
def hexNat (t : Text) : Nat :=
  t.foldl (fun n c => 16 * n + hexDigitNat c) 0

/-- The runs of code points of one category: where each starts, in rising order. -/
def runs : List (Nat × Category) :=
  let entries := table.flatMap fun row => splitOn ' ' row.toList
  (entries.foldl step (0, [])).2.reverse
where
  step (state : Nat × List (Nat × Category)) (entry : Text) : Nat × List (Nat × Category) :=
    let start := state.1 + hexNat (entry.takeWhile fun c => !c.isLower)
    (start, (start, ofLetters (entry.dropWhile fun c => !c.isLower)) :: state.2)

/-- The category of the last run that starts at or before a code point. -/
def lookUp (n : Nat) : List (Nat × Category) → Category → Category
  | [], found => found
  | (start, category) :: rest, found => if start ≤ n then lookUp n rest category else found

/-- The category of a character. -/
def ofChar (c : Char) : Category :=
  lookUp c.toNat runs .unassigned

/-- The groups of categories, by the names they go by. -/
def groups : List (List Text × List Category) :=
  let cased : List Category := [.uppercaseLetter, .lowercaseLetter, .titlecaseLetter]
  [(["lc", "casedletter"], cased),
   (["l", "letter"], cased ++ [.modifierLetter, .otherLetter]),
   (["m", "mark", "combiningmark"], [.nonspacingMark, .spacingMark, .enclosingMark]),
   (["n", "number"], [.decimalNumber, .letterNumber, .otherNumber]),
   (["p", "punctuation", "punct"],
     [.connectorPunctuation, .dashPunctuation, .openPunctuation, .closePunctuation,
      .initialPunctuation, .finalPunctuation, .otherPunctuation]),
   (["s", "symbol"], [.mathSymbol, .currencySymbol, .modifierSymbol, .otherSymbol]),
   (["z", "separator"], [.spaceSeparator, .lineSeparator, .paragraphSeparator]),
   (["c", "other"], [.control, .format, .surrogate, .privateUse, .unassigned]),
   (["digit"], [.decimalNumber]),
   (["cntrl"], [.control])]

/-- The categories that a name stands for. No character is a surrogate, so that one has no name. -/
def named? (name : Text) : Option (List Category) :=
  match groups.find? fun group => group.1.contains name with
  | some group => some group.2
  | none =>
    (names.find? fun row => row.1 ≠ .surrogate ∧ (row.2.1 = name ∨ row.2.2 = name)).map
      fun row => [row.1]

end Category

end VendorCli.Text
