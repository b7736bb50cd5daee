import Mathlib

/-!
# Routers with dependencies

A route has a method and a path, dependencies that are solved in order before its endpoint is
called, and the endpoint. A router mounts routes under its own path prefix and behind its own
dependencies, and includes other routers by mounting their routes, which have been mounted
there before. That the dependencies of a router come first in every route it has is a field
of the structure, so a router with an unguarded route cannot be built.

* `mem_routes_includeRouter` — the routes of a router that includes another;
* `dependencies_prefix_of_included` — a route that is included is behind the dependencies of
  both routers, those of the outer one first;
* `mem_of_dispatch` — a request is dispatched to a route that takes it.
-/

namespace Storefront

variable {M D H : Type}

structure Route (M D H : Type) where
  method : M
  path : String
  dependencies : List D
  endpoint : H
  deriving DecidableEq, Repr

/-- A route under a path prefix and behind dependencies. -/
def Route.mount (pathPrefix : String) (dependencies : List D) (route : Route M D H) :
    Route M D H :=
  { route with
    path := pathPrefix ++ route.path
    dependencies := dependencies ++ route.dependencies }

structure Router (M D H : Type) where
  pathPrefix : String
  dependencies : List D
  routes : List (Route M D H)
  guarded : ∀ route ∈ routes, dependencies <+: route.dependencies

namespace Router

/-- A router that mounts the given routes. -/
def ofRoutes (pathPrefix : String) (dependencies : List D) (routes : List (Route M D H)) :
    Router M D H where
  pathPrefix
  dependencies
  routes := routes.map (Route.mount pathPrefix dependencies)
  guarded := List.forall_mem_map.mpr fun _ _ => List.prefix_append _ _

/-- `router.include_router(other)` -/
def includeRouter (router other : Router M D H) : Router M D H where
  pathPrefix := router.pathPrefix
  dependencies := router.dependencies
  routes := router.routes ++ other.routes.map (Route.mount router.pathPrefix router.dependencies)
  guarded := by
    intro route hroute
    rcases List.mem_append.mp hroute with hroute | hroute
    · exact router.guarded route hroute
    · obtain ⟨inner, -, rfl⟩ := List.mem_map.mp hroute
      exact List.prefix_append _ _

theorem mem_routes_includeRouter {router other : Router M D H} {route : Route M D H} :
    route ∈ (router.includeRouter other).routes ↔
      route ∈ router.routes ∨
        ∃ inner ∈ other.routes, inner.mount router.pathPrefix router.dependencies = route := by
  unfold includeRouter
  rw [List.mem_append, List.mem_map]

/-- The dependencies of a router that is included come after those of the other. -/
theorem dependencies_prefix_of_included {router other : Router M D H} {route : Route M D H}
    (h : route ∈ (router.includeRouter other).routes) (h_new : route ∉ router.routes) :
    router.dependencies ++ other.dependencies <+: route.dependencies := by
  obtain ⟨inner, hinner, rfl⟩ := (mem_routes_includeRouter.mp h).resolve_left h_new
  exact (List.prefix_append_right_inj _).mpr (other.guarded inner hinner)

variable [DecidableEq M]

/-- The first route that takes the method and the path. -/
def dispatch (router : Router M D H) (method : M) (path : String) : Option (Route M D H) :=
  router.routes.find? fun route => route.method = method && route.path = path

theorem mem_of_dispatch {router : Router M D H} {method : M} {path : String}
    {route : Route M D H} (h : router.dispatch method path = some route) :
    route ∈ router.routes ∧ route.method = method ∧ route.path = path := by
  have hfound := List.find?_some h
  rw [Bool.and_eq_true, decide_eq_true_iff, decide_eq_true_iff] at hfound
  exact ⟨List.mem_of_find?_eq_some h, hfound⟩

end Router

end Storefront
