import SheetReport.Xml.Element

/-!
# Why a workbook cannot be read or written
-/

namespace SheetReport

/-- A failure of reading or writing a workbook or a file. -/
inductive WorkbookError where
  /-- The file system refuses. -/
  | io
  /-- The file cannot be read as a workbook. -/
  | read
  /-- A part is missing from a package. -/
  | zip
  /-- A part holds faulty markup. -/
  | xml
  /-- A part holds a faulty attribute. -/
  | attribute
  /-- The report cannot be stored in a workbook. -/
  | write
  | missingSheet (sheet path : String)
  | noWorksheet (path : String)
  | outputExists (path : String)
deriving DecidableEq, Repr

namespace WorkbookError

/-- The error for faulty markup. -/
def ofFault : Xml.Fault → WorkbookError
  | .markup => .xml
  | .attribute => .attribute

/-- The wording of an error, as far as it is fixed. -/
def message : WorkbookError → String
  | .io => "IO error"
  | .read => "Read error"
  | .zip => "Package error"
  | .xml => "XML error"
  | .attribute => "XML attribute error"
  | .write => "Write error"
  | .missingSheet sheet path => "Worksheet '" ++ sheet ++ "' not found in " ++ path
  | .noWorksheet path => "Workbook has no worksheets: " ++ path
  | .outputExists path => "Output already exists: " ++ path ++ " (use --force to overwrite)"

end WorkbookError

end SheetReport
