import SessionGate.Http

/-!
# Requests from other origins

A browser that works for a page of another origin says so, and lets the page see the answer only if
that allows the origin. Before some requests it asks first: a preflight is a request of its own,
which names the method and the headers that are going to be used, and is answered for every path.
-/

namespace SessionGate.Http

/-- Which origins are allowed. -/
structure Cors where
  allowsAll : Bool
  deriving DecidableEq, Repr

namespace Cors

/-- The methods that other origins may use. -/
def methods : List String :=
  ["DELETE", "GET", "HEAD", "OPTIONS", "PATCH", "POST", "PUT", "QUERY"]

/-- What the answer to an origin says about it. -/
def originHeaders (c : Cors) (origin : String) : Headers :=
  ("access-control-allow-credentials", "true") ::
    if c.allowsAll then [("access-control-allow-origin", origin)] else []

/-- What every answer says: that it depends on the origin. -/
def answerHeaders (c : Cors) (r : Request) : Headers :=
  ("vary", "Origin") :: ((r.header? "origin").map c.originHeaders).getD []

/-- What is wrong with a preflight. -/
def objections (c : Cors) (r : Request) (method : String) : List String :=
  (if c.allowsAll then [] else ["origin"]) ++
    (if methods.contains method then [] else ["method"]) ++
    if (r.header? "access-control-request-private-network").isSome then ["private-network"] else []

def preflightVary : String :=
  "Origin, Access-Control-Request-Method, Access-Control-Request-Headers, " ++
    "Access-Control-Request-Private-Network"

/-- The headers of the answer to a preflight; the headers it asks for are allowed as they are. -/
def preflightHeaders (c : Cors) (r : Request) (origin : String) : Headers :=
  [("vary", preflightVary), ("access-control-allow-methods", ", ".intercalate methods),
    ("access-control-max-age", "600")] ++ c.originHeaders origin ++
    ((r.header? "access-control-request-headers").map fun asked ↦
      ("access-control-allow-headers", asked)).toList

/-- The answer to a request, if it is a preflight. -/
def preflight? (c : Cors) (r : Request) : Option Response :=
  match r.header? "origin", r.header? "access-control-request-method" with
  | some origin, some method =>
    if r.method = "OPTIONS" then
      let headers := c.preflightHeaders r origin
      match c.objections r method with
      | [] => some ((Response.of 200 (.text "OK")).withHeaders headers)
      | reasons =>
        let listed := ", ".intercalate reasons
        some ((Response.of 400 (.text s!"Disallowed CORS {listed}")).withHeaders headers)
    else none
  | _, _ => none

end Cors

end SessionGate.Http
