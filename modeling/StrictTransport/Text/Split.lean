namespace StrictTransport.Text

variable {α : Type}

def consHead (a : α) : List (List α) → List (List α)
  | [] => [[a]]
  | part :: parts => (a :: part) :: parts

-- There is always one part more than there are separators.
def splitOn [BEq α] (sep : α) (l : List α) : List (List α) :=
  l.foldr (fun a parts => if a == sep then [] :: parts else consHead a parts) [[]]

def splitOnPair [BEq α] (first second : α) (l : List α) : List (List α) :=
  l.foldr
    (fun a parts =>
      match parts with
      | (b :: part) :: rest =>
        if a == first && b == second then [] :: part :: rest else (a :: b :: part) :: rest
      | _ => consHead a parts)
    [[]]

def hasPair [BEq α] (first second : α) (l : List α) : Bool :=
  (l.zip l.tail).any fun (a, b) => a == first && b == second

-- The words between single blanks, the empty ones included.
def words (cs : List Char) : List (List Char) :=
  splitOn ' ' cs

def join (sep : List α) (parts : List (List α)) : List α :=
  sep.intercalate parts

end StrictTransport.Text
