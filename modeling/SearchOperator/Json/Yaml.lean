import SearchOperator.Json.Text

/-!
# YAML text

A document as YAML in block style: one line an item or a member, and the parts of a part below it,
those of an object two blanks to the right. Strings stand as they are unless they would be read as
something else; then they are put between single quotes.
-/

namespace SearchOperator.Json

/-- The characters that a plain string cannot begin with. -/
def yamlMarks : List Char := "-?:,[]\x7b\x7d#&*!|>'\"%@\x60".toList

/-- Whether a text holds a colon before a blank or the end, or a number sign after a blank. -/
def hasYamlMark : List Char → Bool
  | [] => false
  | [c] => c == ':'
  | c :: d :: rest => (c == ':' && d == ' ') || (c == ' ' && d == '#') || hasYamlMark (d :: rest)

/-- Whether a text reads as a word or a number of YAML. -/
def isYamlWord (s : String) : Bool :=
  ["", "~", "null", "Null", "NULL", "true", "True", "TRUE", "false", "False", "FALSE"].contains s ||
    (s.toList.any fun c => '0' ≤ c && c ≤ '9') &&
      s.toList.all fun c => c.isDigit || "+-.eExoabcdfABCDF_".toList.contains c

/-- Whether a string stands as it is. -/
def isYamlPlain (s : String) : Bool :=
  !(isYamlWord s || hasYamlMark s.toList || s.toList.head?.any yamlMarks.contains ||
    s.toList.head? == some ' ' || s.toList.getLast? == some ' ' ||
    s.toList.any fun c => c.toNat < 0x20)

def yamlString (s : String) : String :=
  if isYamlPlain s then s
  else
    let body := s.toList.flatMap fun c => if c = '\'' then ['\'', '\''] else [c]
    String.ofList ('\'' :: body ++ ['\''])

def yamlScalar : Json → String
  | .string s => yamlString s
  | j => j.text

/-- Put a part below its key: on the line of the key, below it, or below it to the right. -/
def yamlMember (key : String) (part : Json) (lines : List String) : List String :=
  match part with
  | .array (_ :: _) => (yamlString key ++ ":") :: lines
  | .object (_ :: _) => (yamlString key ++ ":") :: lines.map ("  " ++ ·)
  | part => [yamlString key ++ ": " ++ yamlScalar part]

def yamlItem : List String → List String
  | [] => ["-"]
  | line :: more => ("- " ++ line) :: more.map ("  " ++ ·)

mutual

def yamlLines : Json → List String
  | .array (a :: as) => yamlItem (yamlLines a) ++ yamlItems as
  | .object (m :: ms) => yamlPart m ++ yamlParts ms
  | .array [] => ["[]"]
  | .object [] => ["\x7b\x7d"]
  | .string s => [yamlString s]
  | .number n => [String.ofList (numberChars n)]
  | .bool b => [if b then "true" else "false"]
  | .null => ["null"]
termination_by structural x => x

def yamlItems : List Json → List String
  | [] => []
  | a :: as => yamlItem (yamlLines a) ++ yamlItems as
termination_by structural x => x

def yamlParts : List (String × Json) → List String
  | [] => []
  | m :: ms => yamlPart m ++ yamlParts ms
termination_by structural x => x

def yamlPart : String × Json → List String
  | (k, v) => yamlMember k v (yamlLines v)
termination_by structural x => x

end

def yaml (j : Json) : String := String.join (j.yamlLines.map (· ++ "\n"))

end SearchOperator.Json
