namespace CommandLine.Item

def longMark : List Char := ['-', '-']

def shortMark : List Char := ['-']

def afterMark? (mark : List Char) (item : String) : Option String :=
  (mark.isPrefixOf? item.toList).map String.ofList

def afterLong? : String → Option String :=
  afterMark? longMark

def afterShort? : String → Option String :=
  afterMark? shortMark

def splitOption (s : String) : String × Option String :=
  match s.toList.dropWhile (· ≠ '=') with
  | [] => (s, none)
  | _ :: value => (String.ofList (s.toList.takeWhile (· ≠ '=')), some (String.ofList value))

def stripEscape (item : String) : String :=
  match item.toList with
  | '\\' :: cs => String.ofList cs
  | _ => item

end CommandLine.Item
