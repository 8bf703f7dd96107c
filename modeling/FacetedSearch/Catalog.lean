import FacetedSearch.Controls
import FacetedSearch.Facet.Basic

/-!
# The catalog

The facets of each collection, in the order in which they contribute to a query,
and the schema made of their options and those of the controls.
-/

namespace FacetedSearch

/-- The facets of purchases, as sellers search them. -/
def transactionFacets : List Facet :=
  [ .identity ⟨"seller", "seller_id"⟩ .reference
  , .identity ⟨"purchaser", "purchaser_id"⟩ .reference
  , .identity ⟨"affiliate_user", "affiliate_user_id"⟩ .reference
  , .identity ⟨"product", "product_id"⟩ .references
  , .identity ⟨"variant", "variant_ids"⟩ .references
  , .identity ⟨"taxonomy", "taxonomy_id"⟩ .references
  , .identity ⟨"country", "country_or_ip_country"⟩ .references
  , .identity ⟨"state", "purchase_state"⟩ .references
  , .anyOf [⟨"any_of_products", "product_id"⟩, ⟨"any_of_variants", "variant_ids"⟩]
  , .exclusion ⟨"exclude_product", "product_id"⟩
  , .exclusion ⟨"exclude_variant", "variant_ids"⟩
  , .exclusion ⟨"exclude_purchaser", "purchaser_id"⟩
  , .flag "archived" (.isTruth "is_archived" true) .filter
  , .flag "recommended" (.isTruth "is_recommended" true) .filter
  , .flag "refunded" (.isText "flags" "refunded") .filter
  , .flag "preorder" (.isText "flags" "preorder") .filter
  , .flag "chargedback" (.present "chargedback_at") .filter
  -- A licensed purchase also counts for the score.
  , .flag "licensed" (.present "license_serial") .must
  , .switch "exclude_giftees" (.present "gift_giver_purchase_id") .mustNot
  , .switch "exclude_bundle_items" (.present "bundle_purchase_id") .mustNot
  , .switch "exclude_commission_completions" (.isText "flags" "commission_completion") .mustNot
  , .numericRange "price_cents" "price_greater_than" "price_less_than"
  , .dateRange "created_at" "created_after" "created_on_or_after" "created_before"
      "created_on_or_before"
  , .sellerText
      { option := "seller_query"
        phraseField := "full_name"
        fuzzyFields := ["full_name", "product_name", "email"]
        emailFields := ["email.raw", "paypal_email.raw"]
        serialField := "license_serial" } ]

/-- The facets of the messages of sellers. -/
def messageFacets : List Facet :=
  [ .identity ⟨"seller", "seller_id"⟩ .reference
  , .identity ⟨"product", "product_id"⟩ .references
  , .identity ⟨"variant", "variant_id"⟩ .references
  , .identity ⟨"message_type", "installment_type"⟩ .references
  , .anyOf [⟨"any_of_products", "product_id"⟩, ⟨"any_of_variants", "variant_id"⟩]
  , .exclusion ⟨"exclude_message", "id"⟩
  , .flag "published" (.present "published_at") .filter
  , .flag "scheduled" (.present "scheduled_at") .filter
  , .flag "deleted" (.present "deleted_at") .filter
  , .flag "workflow" (.present "workflow_id") .filter
  , .flag "shown_on_profile" (.isTruth "shown_on_profile" true) .filter
  , .switch "exclude_workflow_messages" (.present "workflow_id") .mustNot
  , .dateRange "published_at" "published_after" "published_on_or_after" "published_before"
      "published_on_or_before"
  , .dateRange "created_at" "created_after" "created_on_or_after" "created_before"
      "created_on_or_before"
  , .buyerText { option := "query", fuzzyFields := ["name", "message"] } ]

namespace Collection

/-- The facets of a collection, in the order in which they contribute. -/
def facets : Collection → List Facet
  | .transactions => transactionFacets
  | .messages => messageFacets

/-- The options of a collection: those of its facets and those of the controls. -/
def declarations (collection : Collection) : List Declaration :=
  collection.facets.flatMap Facet.declarations ++ Controls.declarations

/-- The schema of a collection. -/
def schema (collection : Collection) : Schema := .ofDeclarations collection collection.declarations

end Collection

end FacetedSearch
