/-!
# Where a script is downloaded from

Objects in Cloud Storage are fetched with the instance's token, everything else without
credentials.  An object is named by `gs://bucket/object`, by a host of the bucket's own
or by the bucket and the object in the path.
-/

namespace InstanceScripts
namespace Script

/-- How a script is fetched. -/
inductive Origin where
  | storage (url : String)
  | plain (url : String)
  deriving DecidableEq, Repr

namespace Origin

/-- Where objects named by `gs://` are found. -/
def storageEndpoint : List Char :=
  "https://storage.googleapis.com/".toList

/-- The host of Cloud Storage. -/
def storageHost : List Char :=
  "storage.googleapis.com".toList

/-- An older host of Cloud Storage. -/
def commonDataHost : List Char :=
  "commondatastorage.googleapis.com".toList

/-- What remains of a text behind the given beginning. -/
def after? : List Char → List Char → Option (List Char)
  | [], chars => some chars
  | _ :: _, [] => none
  | wanted :: rest, char :: chars => if char = wanted then after? rest chars else none

/-- Lower-case letters and digits. -/
def isBucketEnd (char : Char) : Bool :=
  ('a' ≤ char && char ≤ 'z') || ('0' ≤ char && char ≤ '9')

/-- Characters inside the name of a bucket. -/
def isBucketChar (char : Char) : Bool :=
  isBucketEnd char || char == '-' || char == '_' || char == '.'

/-- Names of buckets begin and end with a letter or a digit. -/
def isBucket (name : List Char) : Bool :=
  name.head?.any isBucketEnd && name.getLast?.any isBucketEnd && name.all isBucketChar

/-- Names of objects hold no wildcards. -/
def isObject (name : List Char) : Bool :=
  !name.isEmpty && name.all fun char => char != '*' && char != '?'

/-- The text before the first slash and the text behind it, if there is a slash. -/
def atSlash? : List Char → Option (List Char × List Char)
  | [] => none
  | char :: chars =>
      if char = '/' then some ([], chars)
      else (atSlash? chars).map fun (before, behind) => (char :: before, behind)

/-- The bucket in a host of its own. -/
def hostBucket? (host : List Char) : Option (List Char) :=
  (after? ('.' :: storageHost).reverse host.reverse).map List.reverse

/-- What stands behind `http://` or `https://`. -/
def behindScheme? (url : List Char) : Option (List Char) :=
  (after? "http://".toList url).or (after? "https://".toList url)

/-- A URL whose host names the bucket. -/
def isVirtualHosted (url : List Char) : Bool :=
  match (behindScheme? url).bind atSlash? with
  | some (host, object) => (hostBucket? host).any isBucket && isObject object
  | none => false

/-- A URL whose path names the bucket. -/
def isPathStyle (url : List Char) : Bool :=
  match (behindScheme? url).bind atSlash? with
  | some (host, path) =>
      (host == storageHost || host == commonDataHost) &&
        (atSlash? path).any fun (bucket, object) => isBucket bucket && isObject object
  | none => false

/-- How the script at a URL is fetched. -/
def classify (url : String) : Origin :=
  match after? "gs://".toList url.toList with
  | some object => .storage (String.ofList (storageEndpoint ++ object))
  | none =>
      if isVirtualHosted url.toList || isPathStyle url.toList then .storage url else .plain url

end Origin
end Script
end InstanceScripts
