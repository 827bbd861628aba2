import PermissionSchema.Main
import PermissionSchema.Proofs.Lossless
import PermissionSchema.Proofs.Places
import PermissionSchema.Proofs.Reading
import PermissionSchema.Proofs.Replay
import PermissionSchema.Proofs.Following
import PermissionSchema.Proofs.Joining
import PermissionSchema.Proofs.Printing
import PermissionSchema.Proofs.Underlining
import PermissionSchema.Proofs.Agreement
import PermissionSchema.Proofs.Lookahead
import PermissionSchema.Proofs.Checking
import PermissionSchema.Proofs.CarriageReturns
import PermissionSchema.Proofs.LineEndings
import PermissionSchema.Proofs.Quoting
import PermissionSchema.Proofs.Dumping
import PermissionSchema.Proofs.PrintedLines
import PermissionSchema.Proofs.Displays
import PermissionSchema.Proofs.ReportLines
import PermissionSchema.Proofs.Outcomes
import PermissionSchema.Proofs.JsonGrammar
import PermissionSchema.Proofs.JsonReading
import PermissionSchema.Proofs.JsonPrinting
import PermissionSchema.Proofs.JsonDumps
import PermissionSchema.Proofs.Motions
import PermissionSchema.Proofs.Progress
import PermissionSchema.Proofs.Turns
import PermissionSchema.Proofs.Safety
import PermissionSchema.Proofs.LineIndex
import PermissionSchema.Proofs.LineTerminators
import PermissionSchema.Proofs.SnippetRanges
import PermissionSchema.Proofs.Carets
import PermissionSchema.Proofs.Relocation
import PermissionSchema.Proofs.Reporting
import PermissionSchema.Proofs.Configuration
