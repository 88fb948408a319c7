import StrictTransport.Https.Response
import StrictTransport.Policy.Build

namespace StrictTransport.Policy

open Https Text

def mediaTypeOf (contentType : String) : String :=
  lowered (trimmed (String.ofList (contentType.toList.takeWhile (· != ';'))))

def contentTypeCautions (r : Response) : List Caution :=
  match r.header? "Content-Type" with
  | none => [.noContentType]
  | some value =>
    let found := mediaTypeOf value
    if found == mediaType then [] else [.contentType found]

def refusal? (r : Response) : Option Problem :=
  if !r.isSuccessful then
    some (r.error.elim (.badStatus r.code r.message) .requestFailed)
  else if !r.handshake then some .notTls
  else none

def bodyOf (limits : Limits) (r : Response) : Except Problem (Bytes × List Caution) :=
  match refusal? r with
  | some problem => .error problem
  | none =>
    let isLong := r.truncated || limits.bodySize < (r.bytes.length : Int)
    .ok (cut limits.bodySize r.bytes,
      contentTypeCautions r ++ if isLong then [.truncated limits.bodySize] else [])

def readResponse (limits : Limits) (response? : Option Response) :
    List Pair × Origin × List Notice :=
  match response? with
  | none => ([], ⟨⟨[.noResponse], []⟩, 0, []⟩, [])
  | some response =>
    let (certificates, notices) := response.certificates.count
    match bodyOf limits response with
    | .error problem => ([], ⟨⟨[problem], []⟩, certificates, []⟩, notices)
    | .ok (body, cautions) =>
      let (pairs, validation) := Document.parse limits body
      (pairs, ⟨(⟨[], cautions⟩ : Validation) ++ validation, certificates, body⟩, notices)

-- There is always a policy; what is wrong with the response is told by its validation.
def ofResponse (limits : Limits) (now : Int) (response? : Option Response)
    (record : Option Record) : Policy × List Notice :=
  let (pairs, origin, notices) := readResponse limits response?
  (assemble limits origin now record pairs, notices ++ ageNotices pairs)

end StrictTransport.Policy
