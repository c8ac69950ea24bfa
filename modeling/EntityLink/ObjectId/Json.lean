import EntityLink.Json
import EntityLink.ObjectId

/-!
# Object ids as JSON

An id is written as its hexadecimal text, and every text of an id reads.
-/

namespace EntityLink.ObjectId

def toJson (id : ObjectId) : Json :=
  .string id.hex

def ofJson? (json : Json) : Option ObjectId :=
  json.string?.bind fun text => (parse text).toOption

end EntityLink.ObjectId
