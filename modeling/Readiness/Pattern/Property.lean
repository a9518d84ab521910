import Readiness.Pattern.Expression
import Readiness.Pattern.Look
import Readiness.Unicode.Age
import Readiness.Unicode.Property
import Readiness.Unicode.Script
import Readiness.Unicode.Segmentation

/-! Sets of characters that patterns name. -/

namespace Readiness.Pattern

open Readiness.Unicode

/-- What is asked for by name alone is a property, a general category or a script, the first of
these that has the name. -/
def PropertyQuery.members? : PropertyQuery → Option CodeSet
  | .name text =>
    NamedSet.find? properties text <|> NamedSet.find? categories text
      <|> NamedSet.find? scripts text
  | .value key wanted =>
    match String.ofList (foldName key) with
    | "generalcategory" | "gc" => NamedSet.find? categories wanted
    | "script" | "sc" => NamedSet.find? scripts wanted
    | "scriptextensions" | "scx" => NamedSet.find? scriptExtensions wanted
    | "age" => NamedSet.find? versions wanted
    | "graphemeclusterbreak" | "gcb" => NamedSet.find? graphemeClasses wanted
    | "wordbreak" | "wb" => NamedSet.find? wordClasses wanted
    | "sentencebreak" | "sb" => NamedSet.find? sentenceClasses wanted
    | _ => none

def AsciiClass.members (kind : AsciiClass) : CodeSet :=
  CodeSet.ofRanges <| match kind with
    | .alnum => [(0x30, 0x39), (0x41, 0x5A), (0x61, 0x7A)]
    | .alpha => [(0x41, 0x5A), (0x61, 0x7A)]
    | .ascii => [(0, 0x7F)]
    | .blank => [(0x09, 0x09), (0x20, 0x20)]
    | .cntrl => [(0, 0x1F), (0x7F, 0x7F)]
    | .digit => [(0x30, 0x39)]
    | .graph => [(0x21, 0x7E)]
    | .lower => [(0x61, 0x7A)]
    | .print => [(0x20, 0x7E)]
    | .punct => [(0x21, 0x2F), (0x3A, 0x40), (0x5B, 0x60), (0x7B, 0x7E)]
    | .space => [(0x09, 0x0D), (0x20, 0x20)]
    | .upper => [(0x41, 0x5A)]
    | .word => [(0x30, 0x39), (0x41, 0x5A), (0x5F, 0x5F), (0x61, 0x7A)]
    | .xdigit => [(0x30, 0x39), (0x41, 0x46), (0x61, 0x66)]

def Shorthand.members : Shorthand → Alphabet → CodeSet
  | .digit, .unicode => Category.codes .decimalNumber
  | .space, .unicode => blanks
  | .word, .unicode => wordCodes
  | .digit, .ascii => AsciiClass.members .digit
  | .space, .ascii => AsciiClass.members .space
  | .word, .ascii => AsciiClass.members .word

end Readiness.Pattern
