import Relay.Event.Registry

/-!
# The catalog

The events that the application publishes: identity and access events for itself, and events of the
painting inventory for others. `Catalog.registry` knows them all.
-/

namespace Relay.Catalog

open Relay.Json

/-- An event type of the first version whose name is also that of its payload. -/
def eventType (path name : String) (leading : List Field) : Schema where
  name := name
  version := 1
  typeName := path ++ name
  recordName := name
  leading := leading

/-- Where the types of identity and access events live. -/
def domainPath : String := "brushwork_events::catalog::domain::"

/-- Where the types of inventory events live. -/
def integrationPath : String := "brushwork_events::catalog::integration::"

/-- How a paint looks when it is dry. -/
def finishes : List String := ["matte", "satin", "gloss", "metallic", "wash"]

def tenantCreated : Schema :=
  eventType domainPath "TenantCreated" [⟨"tenant_id", .uuid⟩, ⟨"name", .text⟩]

def userRegistered : Schema :=
  eventType domainPath "UserRegistered"
    [⟨"user_id", .uuid⟩, ⟨"tenant_id", .uuid⟩, ⟨"username", .text⟩, ⟨"email", .text⟩]

def roleGranted : Schema :=
  eventType domainPath "RoleGranted"
    [⟨"user_id", .uuid⟩, ⟨"tenant_id", .uuid⟩, ⟨"role", .text⟩]

def claimAssigned : Schema :=
  eventType domainPath "ClaimAssigned"
    [⟨"user_id", .uuid⟩, ⟨"tenant_id", .uuid⟩, ⟨"claim_type", .text⟩, ⟨"claim_value", .text⟩]

def materialCreated : Schema :=
  eventType integrationPath "MaterialCreated"
    [⟨"material_id", .uuid⟩, ⟨"tenant_id", .uuid⟩, ⟨"name", .text⟩, ⟨"category", .optional .text⟩]

def paintBrandCreated : Schema :=
  eventType integrationPath "PaintBrandCreated" [⟨"brand_id", .uuid⟩, ⟨"name", .text⟩]

def paintLineCreated : Schema :=
  eventType integrationPath "PaintLineCreated"
    [⟨"line_id", .uuid⟩, ⟨"brand_id", .uuid⟩, ⟨"name", .text⟩]

def paintColorCreated : Schema :=
  eventType integrationPath "PaintColorCreated"
    [⟨"color_id", .uuid⟩, ⟨"line_id", .uuid⟩, ⟨"name", .text⟩, ⟨"hex_code", .text⟩]

/-- The second version of a new color adds its finish. -/
def paintColorCreatedV2 : Schema where
  name := "PaintColorCreated"
  version := 2
  typeName := integrationPath ++ "PaintColorCreatedV2"
  recordName := "PaintColorCreatedV2"
  leading :=
    [⟨"color_id", .uuid⟩, ⟨"line_id", .uuid⟩, ⟨"name", .text⟩, ⟨"hex_code", .text⟩,
      ⟨"finish", .choice finishes⟩]

def modelCategoryCreated : Schema :=
  eventType integrationPath "ModelCategoryCreated"
    [⟨"category_id", .uuid⟩, ⟨"name", .text⟩, ⟨"parent_id", .optional .uuid⟩]

/-- Every event type of the application. -/
def types : List Schema :=
  [tenantCreated, userRegistered, roleGranted, claimAssigned, materialCreated, paintBrandCreated,
    paintLineCreated, paintColorCreated, paintColorCreatedV2, modelCategoryCreated]

/-- The registry of every event type of the application. -/
def registry : Except Duplicate Registry := Registry.registerAll {} types

end Relay.Catalog
