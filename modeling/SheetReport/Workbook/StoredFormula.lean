import SheetReport.Text.CharClass

/-!
# Formulas as they are stored

A formula is stored without the equals sign before it and without one pair of braces around
it. Functions that are younger than the file format are stored under a longer name. Those that
can give a whole range of values make the formula one of a range.
-/

namespace SheetReport.StoredFormula

/-- The functions that are younger than the file format. -/
def youngFunctions : List String :=
  ["ACOT", "ACOTH", "AGGREGATE", "ARABIC", "ARRAYTOTEXT", "BASE", "BETA.DIST", "BETA.INV",
    "BINOM.DIST", "BINOM.DIST.RANGE", "BINOM.INV", "BITAND", "BITLSHIFT", "BITOR", "BITRSHIFT",
    "BITXOR", "CEILING.MATH", "CEILING.PRECISE", "CHISQ.DIST", "CHISQ.DIST.RT", "CHISQ.INV",
    "CHISQ.INV.RT", "CHISQ.TEST", "COMBINA", "CONCAT", "CONFIDENCE.NORM", "CONFIDENCE.T", "COT",
    "COTH", "COVARIANCE.P", "COVARIANCE.S", "CSC", "CSCH", "DAYS", "DECIMAL", "ERF.PRECISE",
    "ERFC.PRECISE", "EXPON.DIST", "F.DIST", "F.DIST.RT", "F.INV", "F.INV.RT", "F.TEST",
    "FILTERXML", "FLOOR.MATH", "FLOOR.PRECISE", "FORECAST.ETS", "FORECAST.ETS.CONFINT",
    "FORECAST.ETS.SEASONALITY", "FORECAST.ETS.STAT", "FORECAST.LINEAR", "FORMULATEXT", "GAMMA",
    "GAMMA.DIST", "GAMMA.INV", "GAMMALN.PRECISE", "GAUSS", "HYPGEOM.DIST", "IFNA", "IFS", "IMAGE",
    "IMCOSH", "IMCOT", "IMCSC", "IMCSCH", "IMSEC", "IMSECH", "IMSINH", "IMTAN", "ISFORMULA",
    "ISOMITTED", "ISOWEEKNUM", "LET", "LOGNORM.DIST", "LOGNORM.INV", "MAXIFS", "MINIFS",
    "MODE.MULT", "MODE.SNGL", "MUNIT", "NEGBINOM.DIST", "NORM.DIST", "NORM.INV", "NORM.S.DIST",
    "NORM.S.INV", "NUMBERVALUE", "PDURATION", "PERCENTILE.EXC", "PERCENTILE.INC",
    "PERCENTRANK.EXC", "PERCENTRANK.INC", "PERMUTATIONA", "PHI", "POISSON.DIST", "QUARTILE.EXC",
    "QUARTILE.INC", "QUERYSTRING", "RANK.AVG", "RANK.EQ", "RRI", "SEC", "SECH", "SHEET", "SHEETS",
    "SKEW.P", "STDEV.P", "STDEV.S", "T.DIST", "T.DIST.2T", "T.DIST.RT", "T.INV", "T.INV.2T",
    "T.TEST", "TEXTAFTER", "TEXTBEFORE", "TEXTJOIN", "UNICHAR", "UNICODE", "VALUETOTEXT", "VAR.P",
    "VAR.S", "WEBSERVICE", "WEIBULL.DIST", "XMATCH", "XOR", "Z.TEST"]

/-- The young functions that can give a range of values. -/
def rangeFunctions : List String :=
  ["ANCHORARRAY", "BYCOL", "BYROW", "CHOOSECOLS", "CHOOSEROWS", "DROP", "EXPAND", "FILTER",
    "HSTACK", "LAMBDA", "MAKEARRAY", "MAP", "RANDARRAY", "REDUCE", "SCAN", "SEQUENCE", "SINGLE",
    "SORT", "SORTBY", "SWITCH", "TAKE", "TEXTSPLIT", "TOCOL", "TOROW", "UNIQUE", "VSTACK",
    "WRAPCOLS", "WRAPROWS", "XLOOKUP"]

/-- The young functions that belong to sheets alone. -/
def sheetFunctions : List String := ["FILTER", "SORT"]

/-- What stands before the names of young functions. -/
def youngMark : String := "_xlfn."

/-- The name a function is stored under. -/
def storedName (name : String) : String :=
  if sheetFunctions.contains name then youngMark ++ "_xlws." ++ name
  else if youngFunctions.contains name || rangeFunctions.contains name then youngMark ++ name
  else name

/-- A text without a mark that it may begin with. -/
def dropMark (mark : Char) (text : List Char) : List Char :=
  if text.head? = some mark then text.drop 1 else text

/-- A formula without the marks around it: a brace and an equals sign before it and a brace
behind it, each only once. -/
def bare (text : List Char) : List Char :=
  (dropMark '\x7d' (dropMark '=' (dropMark '\x7b' text)).reverse).reverse

/-- A piece of a formula. -/
inductive Piece where
  /-- A name with an opening parenthesis behind it, which is a piece of its own. -/
  | call (name : String)
  | other (text : List Char)

/-- A character in the name of a function. -/
def isNameChar (c : Char) : Bool := Text.isWordAscii c || c == '.'

/-- The pieces of a formula. `quoted` tells whether it begins inside quotes; `name` is the name
that is being read, last character first. -/
def pieces (quoted : Bool) (name : List Char) : List Char → List Piece
  | [] => [.other name.reverse]
  | c :: rest =>
    if quoted then .other [c] :: pieces (c != '"') [] rest
    else if isNameChar c then pieces false (c :: name) rest
    else
      let before : Piece :=
        if c = '(' then .call (String.ofList name.reverse) else .other name.reverse
      before :: .other [c] :: pieces (c == '"') [] rest

/-- A piece as it is stored. -/
def Piece.stored : Piece → List Char
  | .call name => (storedName name).toList
  | .other text => text

/-- Whether a piece makes the formula one of a range. -/
def Piece.isRange : Piece → Bool
  | .call name => rangeFunctions.contains name
  | .other _ => false

/-- Whether the long name of a young function stands in a formula, which then is left as it
is. -/
def hasYoungMark : List Char → Bool
  | [] => false
  | c :: rest => youngMark.toList.isPrefixOf (c :: rest) || hasYoungMark rest

/-- The pieces of a formula without the marks around it. -/
def piecesOf (s : String) : List Piece :=
  let text := bare s.toList
  if hasYoungMark text then [.other text] else pieces false [] text

/-- A formula as it is stored. -/
def stored (s : String) : String := String.ofList ((piecesOf s).flatMap Piece.stored)

/-- Whether a formula is stored as one of a range. -/
def isRange (s : String) : Bool := (piecesOf s).any Piece.isRange

end SheetReport.StoredFormula
