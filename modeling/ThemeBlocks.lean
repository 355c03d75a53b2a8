import ThemeBlocks.Machine
import ThemeBlocks.Main
import ThemeBlocks.Proofs.Cms.Answers
import ThemeBlocks.Proofs.Cms.ObjectItems
import ThemeBlocks.Proofs.Project.Again
import ThemeBlocks.Proofs.Project.Effects
import ThemeBlocks.Proofs.Project.Inside
import ThemeBlocks.Proofs.Project.Interrupted
import ThemeBlocks.Proofs.Project.RefusedBlocks
import ThemeBlocks.Proofs.Project.RegistryErrors
import ThemeBlocks.Proofs.Project.ThemeFiles
import ThemeBlocks.Proofs.Query.Selections
import ThemeBlocks.Proofs.Query.Slots
import ThemeBlocks.Proofs.Report.BlocksReadBack
import ThemeBlocks.Proofs.Report.Faithful
import ThemeBlocks.Proofs.Report.Rows
import ThemeBlocks.Proofs.Schema.BlockTypes
import ThemeBlocks.Proofs.Schema.Replaced
import ThemeBlocks.Proofs.Sync.EmptyRegistry
import ThemeBlocks.Proofs.Theme.FieldKeys
import ThemeBlocks.Proofs.Theme.FieldValues
import ThemeBlocks.Proofs.Theme.Fragments
import ThemeBlocks.Proofs.Theme.GuardedTokens
import ThemeBlocks.Proofs.Theme.TemplateFile
import ThemeBlocks.Sync.Script
