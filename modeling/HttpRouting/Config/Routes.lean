/-
Configured routes.

An entry names a route and gives its method and its pattern as written.
-/

namespace HttpRouting

structure RouteEntry where
  name : String
  method : String := "GET"
  pattern : String
  deriving DecidableEq, Repr, Inhabited

structure RoutesConfig where
  routes : List RouteEntry := []
  deriving DecidableEq, Repr, Inhabited

end HttpRouting
