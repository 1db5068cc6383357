import MarketChart.Source.Folder

/-!
# Documents on a server

Documents are asked for under a base address, with a number at the end of the address that keeps
caches away. There is no connection here: every request fails.
-/

namespace MarketChart

/-- A base address without the slashes at its end. -/
def trimBase (base : String) : String :=
  String.ofList (base.toList.reverse.dropWhile (· == '/')).reverse

/-- The address of a document. -/
def documentAddress (base name stamp : String) : String :=
  trimBase base ++ "/" ++ name ++ "?" ++ stamp

/-- What a server that cannot be reached gives for one load. -/
def Delivery.ofWeb (base stamp : String) : Delivery where
  document := .error ⟨[.requesting (documentAddress base documentName stamp)], .unreachable⟩
  overrides _ := none

end MarketChart
