import ArchiveCatalog.Conformance.Suite.Listings
import ArchiveCatalog.Conformance.Suite.Lookups
import ArchiveCatalog.Conformance.Suite.Mutations

namespace ArchiveCatalog.Suite

/-- All trials, each for a catalog that is new and empty. -/
def trials : List (String × Trial Unit) :=
  [("index_then_get_is_uncommitted", indexedIsUncommitted),
    ("commit_is_idempotent", commitIsIdempotent),
    ("unknown_uuid_is_not_found", unknownIsNotFound),
    ("delete_removes_artifact", deletedIsGone),
    ("latest_respects_commit_state", latestIsVisible),
    ("latest_absent_without_eligible_version", latestMayBeAbsent),
    ("deleting_latest_falls_back", deletedLatestFallsBack),
    ("artifact_version_lookup", versionIsFound),
    ("update_storage_url_round_trip", relocationIsRecorded),
    ("update_storage_url_unknown_uuid", unknownIsNotRelocated),
    ("nil_uuid_is_invalid", nilIsRefused),
    ("invalid_artifact_rejected", invalidArtifactIsRefused),
    ("blank_arguments_are_invalid", emptyIsRefused),
    ("namespaces_and_au_ids", unitsAreListed),
    ("get_artifacts_commit_scenario", commitEntersListing),
    ("get_artifacts_latest_per_url", listingHoldsLatest),
    ("all_versions_ordering", versionsAreOrdered),
    ("prefix_search_latest_committed", searchFindsLatest),
    ("prefix_search_is_literal", searchIsLiteral),
    ("prefix_search_all_versions", searchFindsVersions),
    ("empty_prefix_matches_whole_au", emptyStartFindsAll),
    ("cross_au_url_search", crossSearchByUrl),
    ("cross_au_prefix_search", crossSearchByStart),
    ("au_size_additivity", sizesAddUp),
    ("au_size_empty_au_is_zero", emptyUnitHasNoSize),
    ("au_size_ignores_uncommitted", sizesCountCommitted),
    ("duplicate_uuid_rejected", takenIdentifierIsRefused),
    ("duplicate_stem_version_rejected", takenVersionIsRefused),
    ("long_url_round_trip", longUrlsAreDistinct),
    ("stopped_index_rejects_operations", stoppedServesNothing)]

def trial? (name : String) : Option (Trial Unit) := trials.lookup name

end ArchiveCatalog.Suite
