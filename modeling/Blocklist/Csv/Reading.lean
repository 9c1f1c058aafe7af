import Blocklist.Text.Blank
import Blocklist.Text.Utf8
/-!
Reading tables with commas between the fields. A field in quotation marks may hold commas and line
breaks, and two quotation marks in it stand for one. Lines without a character are passed over.
-/

namespace Blocklist.Csv

/-- A record: the bytes of its fields. -/
abbrev Record := List (List UInt8)

def comma : UInt8 := 0x2c

def quotationMark : UInt8 := 0x22

def lineFeed : UInt8 := 0x0a

def carriageReturn : UInt8 := 0x0d

def endsLine (b : UInt8) : Bool :=
  b == lineFeed || b == carriageReturn

/-- Where a table is read. -/
inductive Place where
  /-- In front of a record. -/
  | recordStart
  /-- In front of a field. -/
  | fieldStart
  /-- In a field, outside quotation marks. -/
  | field
  /-- In a field, between quotation marks. -/
  | quoted
  /-- Behind a quotation mark that ends the field, unless another follows. -/
  | afterQuote
deriving DecidableEq, Repr

/-- Reads the records of a table. `field` are the bytes of the field so far, and `fields` the fields
of the record before it, both in reverse. -/
def readRecords (place : Place) (field : List UInt8) (fields : Record) : List UInt8 → List Record
  | [] =>
    if place = .recordStart then [] else [(field.reverse :: fields).reverse]
  | b :: bs =>
    match place with
    | .recordStart =>
      if endsLine b then readRecords .recordStart [] [] bs
      else if b = quotationMark then readRecords .quoted [] [] bs
      else if b = comma then readRecords .fieldStart [] [[]] bs
      else readRecords .field [b] [] bs
    | .quoted =>
      if b = quotationMark then readRecords .afterQuote field fields bs
      else readRecords .quoted (b :: field) fields bs
    | .fieldStart | .field | .afterQuote =>
      if endsLine b then
        (field.reverse :: fields).reverse :: readRecords .recordStart [] [] bs
      else if b = comma then readRecords .fieldStart [] (field.reverse :: fields) bs
      else if b = quotationMark && place = .fieldStart then readRecords .quoted field fields bs
      else if b = quotationMark && place = .afterQuote then
        readRecords .quoted (b :: field) fields bs
      else readRecords .field (b :: field) fields bs

/-- Bytes without the mark that UTF-8 texts may start with. -/
def dropByteOrderMark : List UInt8 → List UInt8
  | 0xef :: 0xbb :: 0xbf :: bs => bs
  | bs => bs

def read (bytes : List UInt8) : List Record :=
  readRecords .recordStart [] [] (dropByteOrderMark bytes)

/-- The trimmed texts of the fields of a record, if all of them are texts. -/
def Record.texts? (r : Record) : Option (List String) :=
  (r.mapM Text.ofBytes?).map (·.map Text.trim)

end Blocklist.Csv
