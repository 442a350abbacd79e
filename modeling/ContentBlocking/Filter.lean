/-!
# Writing URL filters

Every filter that is made for a domain begins in the same way: with the scheme, of which nothing but
the usual names is accepted, and any number of labels in front of the domain.
-/

namespace ContentBlocking.Filter

/-- What a filter has in front of a domain: schemes and further labels. -/
def subdomainStart : String := "^(https?)?(wss?)?://([a-z0-9-]+\\.)*"

/-- What a filter has behind a domain: a port number and any path. -/
def domainEnd : String := "(:?[0-9]+)?/.*"

def optionalPortNumber : String := "(:[0-9]+)?"

/-- Puts a backslash in front of every occurrence of a character. -/
def protect (special : Char) (text : List Char) : List Char :=
  text.flatMap (fun c => if c = special then ['\\', c] else [c])

/-- Escapes the backslashes, dots and slashes of a text. The backslashes come first, so those that
are put in front of the others are not escaped again. -/
def escapeChars (text : List Char) : List Char :=
  protect '/' (protect '.' (protect '\\' text))

def escape (text : String) : String := String.ofList (escapeChars text.toList)

/-- The filter for all URLs on a domain and below it. -/
def ofDomain (domain : String) : String := subdomainStart ++ escape domain ++ domainEnd

/-- The filter for the pattern of a tracker rule. A pattern that spells out a scheme is taken as it
is. -/
def ofRulePattern (pattern : String) : String :=
  if "http".toList.isPrefixOf pattern.toList then pattern else subdomainStart ++ pattern

/-- A text with a pattern for a port number in front of its first slash, if it has one. -/
def withPortNumber (text : List Char) : List Char :=
  match text.dropWhile (fun c => c ≠ '/') with
  | [] => text
  | path => text.takeWhile (fun c => c ≠ '/') ++ optionalPortNumber.toList ++ path

/-- The filter for an entry of an allowlist, a domain with or without a path. -/
def ofAllowlistEntry (entry : String) : String :=
  subdomainStart ++ String.ofList (escapeChars (withPortNumber entry.toList)) ++ ".*"

/-- The entry of a domain list for a domain and all that lies below it. -/
def wildcard (domain : String) : String := "*" ++ domain

def wildcards (domains : List String) : List String := domains.map wildcard

end ContentBlocking.Filter
