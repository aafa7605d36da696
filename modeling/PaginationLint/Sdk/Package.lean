/-!
Packages of the AWS SDK for Go, version 2.

A package path belongs to the SDK if the marker occurs anywhere in it, so that forks, vendored
copies and proxies count too. The service is the path segment after the first marker.
-/

namespace PaginationLint

/-- Path segments in front of a service name. -/
def sdkMarker : String := "aws-sdk-go-v2/service/"

/-- What follows the first occurrence of `pattern` in a text. -/
def afterFirst (pattern : List Char) : List Char → Option (List Char)
  | [] => if pattern.isEmpty then some [] else none
  | c :: cs =>
    if pattern.isPrefixOf (c :: cs) then some ((c :: cs).drop pattern.length)
    else afterFirst pattern cs

/-- Is this the path of an SDK service package or of a package below one? -/
def isSdkPackage (package : String) : Bool := (afterFirst sdkMarker.toList package.toList).isSome

/-- The service of an SDK package path. -/
def serviceName (package : String) : Option String := do
  let rest ← afterFirst sdkMarker.toList package.toList
  let service := rest.takeWhile (· != '/')
  if service.isEmpty then none else some (String.ofList service)

end PaginationLint
