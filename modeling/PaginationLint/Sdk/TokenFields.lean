/-!
Names of pagination token fields.

Most services use one of the default names. A few have names of their own, which take precedence
where a result has them.
-/

namespace PaginationLint

/-- Token fields looked for in every result, best first: fields that hold the next token come
before those that only echo the one of the request. -/
def defaultTokenFields : List String :=
  ["NextToken", "NextMarker", "Marker", "NextContinuationToken", "ContinuationToken",
    "NextPageToken", "NextPageMarker"]

/-- Services with token fields of their own. -/
def serviceTable : List (String × List String) :=
  [("apigateway", ["Position"]),
    ("dynamodb", ["LastEvaluatedKey"]),
    ("route53", ["IsTruncated", "NextRecordName", "NextRecordType", "NextRecordIdentifier"])]

/-- Do two names agree up to the case of ASCII letters? -/
def sameName (a b : String) : Bool := a.toList.map Char.toLower == b.toList.map Char.toLower

/-- The token fields of a service, if it has its own. -/
def serviceTokenFields (service : String) : Option (List String) :=
  (serviceTable.find? fun entry => sameName entry.1 service).map Prod.snd

end PaginationLint
