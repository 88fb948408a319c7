import StrictTransport.Text.Letter

namespace StrictTransport.Mask

open Text

-- Whether a mask covers each end of a host name, the longest first, given that its first character
-- is `m` and whether the rest of it covers each of those ends.
def extend (m : Char) : (host : List Char) → (rest : List Bool) → List Bool
  | [], rest => if m == '*' then rest else [false]
  | c :: cs, rest =>
    let later := extend m cs rest.tail
    let here :=
      if m == '*' then rest.headD false || (c != '\n' && later.headD false)
      else sameLetter m c && rest.tail.headD false
    here :: later

def coverage (host : List Char) : (mask : List Char) → List Bool
  | [] => host.map (fun _ => false) ++ [true]
  | m :: ms => extend m host (coverage host ms)

-- What is left of a mask and a host name without their first characters, up to the first star of
-- the mask: a star cannot be passed, and all that stands before it must be the same in both.
def peel : (mask host : List Char) → Option (List Char × List Char)
  | [], [] => some ([], [])
  | [], _ :: _ => none
  | m :: ms, host =>
    if m == '*' then some (m :: ms, host)
    else
      match host with
      | c :: cs => if sameLetter m c then peel ms cs else none
      | [] => none

-- A star stands for any characters of one line, every other character for itself without regard to
-- case. What stands before the first star and behind the last one is compared at once, so that only
-- the rest has to be searched.
def covers (mask host : List Char) : Bool :=
  match peel mask host with
  | none => false
  | some (mask, host) =>
    match peel mask.reverse host.reverse with
    | none => false
    | some (mask, host) => (coverage host mask).headD false

end StrictTransport.Mask
