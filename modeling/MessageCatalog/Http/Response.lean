/-!
HTTP responses as values. A body may announce a greatest size or not, and it may still deliver less
or more than that or fail when it is read. Header names are in lower case; a header may be given
more than once.
-/

namespace MessageCatalog.Http

abbrev Headers := List (String × ByteArray)

namespace Headers

def first? (name : String) (headers : Headers) : Option ByteArray :=
  (headers.find? (·.1 == name)).map Prod.snd

def remove (name : String) (headers : Headers) : Headers := headers.filter (·.1 != name)

/-- Replaces all headers of that name by one. -/
def replace (name : String) (value : ByteArray) (headers : Headers) : Headers :=
  headers.remove name ++ [(name, value)]

end Headers

/-- The greatest size a body announces, if it announces one, and the bytes it delivers, unless it
fails on the way. -/
structure Body where
  sizeBound? : Option Nat
  read? : Option ByteArray

namespace Body

def sized (content : ByteArray) : Body := ⟨some content.size, some content⟩

def streamed (content : ByteArray) : Body := ⟨none, some content⟩

def broken (announced : Nat) : Body := ⟨some announced, none⟩

def empty : Body := sized ByteArray.empty

/-- The bytes, unless reading fails or there are more of them than `limit`. -/
def readWithin? (limit : Nat) (body : Body) : Option ByteArray := body.read?.filter (·.size ≤ limit)

end Body

structure Response where
  status : Nat
  headers : Headers
  body : Body

/-- Client and server errors. -/
def Response.isError (response : Response) : Bool := 400 ≤ response.status && response.status < 600

end MessageCatalog.Http
