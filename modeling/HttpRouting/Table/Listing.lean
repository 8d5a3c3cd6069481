/-
The listing of a route table: its size and then one line for each route.
-/

import HttpRouting.Program.Listing
import HttpRouting.Table.RouteTable

namespace HttpRouting

def Route.listing (route : Route) : String :=
  "[route] " ++ route.method.token ++ " " ++ route.pattern ++ " -> " ++
    route.name ++ " fields=" ++ quotedList route.program.fields

namespace RouteTable

def lines (table : RouteTable) : List String :=
  ("[routes] count=" ++ toString table.size) ::
    table.routes.map Route.listing

theorem lines_length (table : RouteTable) :
    table.lines.length = table.size + 1 := by
  unfold lines size
  rw [List.length_cons, List.length_map]

def listing (table : RouteTable) : String :=
  unlines table.lines

end RouteTable

end HttpRouting
