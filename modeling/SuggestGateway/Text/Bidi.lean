import SuggestGateway.Text.RunTable
/-!
# Bidirectional classes

The class every character has in the Unicode bidirectional algorithm, which says how it
behaves in text that mixes left-to-right and right-to-left writing. Code points that Unicode
has not assigned have no class, which is told apart as `unknown`.
-/
namespace SuggestGateway

/-- The bidirectional class of a character. -/
inductive BidiClass where
  | unknown
  | leftToRight
  | rightToLeft
  | arabicLetter
  | europeanNumber
  | europeanSeparator
  | europeanTerminator
  | arabicNumber
  | commonSeparator
  | nonspacingMark
  | boundaryNeutral
  | paragraphSeparator
  | segmentSeparator
  | whiteSpace
  | otherNeutral
  | leftToRightEmbedding
  | leftToRightOverride
  | rightToLeftEmbedding
  | rightToLeftOverride
  | popDirectionalFormat
  | leftToRightIsolate
  | rightToLeftIsolate
  | firstStrongIsolate
  | popDirectionalIsolate
deriving DecidableEq, Repr

def BidiClass.ofIndex : Nat → BidiClass
  | 1 => .leftToRight
  | 2 => .rightToLeft
  | 3 => .arabicLetter
  | 4 => .europeanNumber
  | 5 => .europeanSeparator
  | 6 => .europeanTerminator
  | 7 => .arabicNumber
  | 8 => .commonSeparator
  | 9 => .nonspacingMark
  | 10 => .boundaryNeutral
  | 11 => .paragraphSeparator
  | 12 => .segmentSeparator
  | 13 => .whiteSpace
  | 14 => .otherNeutral
  | 15 => .leftToRightEmbedding
  | 16 => .leftToRightOverride
  | 17 => .rightToLeftEmbedding
  | 18 => .rightToLeftOverride
  | 19 => .popDirectionalFormat
  | 20 => .leftToRightIsolate
  | 21 => .rightToLeftIsolate
  | 22 => .firstStrongIsolate
  | 23 => .popDirectionalIsolate
  | _ => .unknown

/-- Where the class changes, with the number of the class from there on. -/
def bidiTable : RunTable := RunTable.parse <| String.join [
    "0:A,9:C,A:B,B:C,C:D,D:B,E:A,1C:B,1F:C,20:D,21:E,23:6,26:E,2B:5,2C:8,2D:5,2E:8,30:4,3A:8,",
    "3B:E,41:1,5B:E,61:1,7B:E,7F:A,85:B,86:A,A0:8,A1:E,A2:6,A6:E,AA:1,AB:E,AD:A,AE:E,B0:6,B2:4,",
    "B4:E,B5:1,B6:E,B9:4,BA:1,BB:E,C0:1,D7:E,D8:1,F7:E,F8:1,2B9:E,2BB:1,2C2:E,2D0:1,2D2:E,2E0:1,",
    "2E5:E,2EE:1,2EF:E,300:9,370:1,374:E,376:1,378:0,37A:1,37E:E,37F:1,380:0,384:E,386:1,387:E,",
    "388:1,38B:0,38C:1,38D:0,38E:1,3A2:0,3A3:1,3F6:E,3F7:1,483:9,48A:1,530:0,531:1,557:0,559:1,",
    "58A:E,58B:0,58D:E,58F:6,590:0,591:9,5BE:2,5BF:9,5C0:2,5C1:9,5C3:2,5C4:9,5C6:2,5C7:9,5C8:0,",
    "5D0:2,5EB:0,5EF:2,5F5:0,600:7,606:E,608:3,609:6,60B:3,60C:8,60D:3,60E:E,610:9,61B:3,64B:9,",
    "660:7,66A:6,66B:7,66D:3,670:9,671:3,6D6:9,6DD:7,6DE:E,6DF:9,6E5:3,6E7:9,6E9:E,6EA:9,6EE:3,",
    "6F0:4,6FA:3,70E:0,70F:3,711:9,712:3,730:9,74B:0,74D:3,7A6:9,7B1:3,7B2:0,7C0:2,7EB:9,7F4:2,",
    "7F6:E,7FA:2,7FB:0,7FD:9,7FE:2,816:9,81A:2,81B:9,824:2,825:9,828:2,829:9,82E:0,830:2,83F:0,",
    "840:2,859:9,85C:0,85E:2,85F:0,860:3,86B:0,870:3,88F:0,890:7,892:0,898:9,8A0:3,8CA:9,8E2:7,",
    "8E3:9,903:1,93A:9,93B:1,93C:9,93D:1,941:9,949:1,94D:9,94E:1,951:9,958:1,962:9,964:1,981:9,",
    "982:1,984:0,985:1,98D:0,98F:1,991:0,993:1,9A9:0,9AA:1,9B1:0,9B2:1,9B3:0,9B6:1,9BA:0,9BC:9,",
    "9BD:1,9C1:9,9C5:0,9C7:1,9C9:0,9CB:1,9CD:9,9CE:1,9CF:0,9D7:1,9D8:0,9DC:1,9DE:0,9DF:1,9E2:9,",
    "9E4:0,9E6:1,9F2:6,9F4:1,9FB:6,9FC:1,9FE:9,9FF:0,A01:9,A03:1,A04:0,A05:1,A0B:0,A0F:1,A11:0,",
    "A13:1,A29:0,A2A:1,A31:0,A32:1,A34:0,A35:1,A37:0,A38:1,A3A:0,A3C:9,A3D:0,A3E:1,A41:9,A43:0,",
    "A47:9,A49:0,A4B:9,A4E:0,A51:9,A52:0,A59:1,A5D:0,A5E:1,A5F:0,A66:1,A70:9,A72:1,A75:9,A76:1,",
    "A77:0,A81:9,A83:1,A84:0,A85:1,A8E:0,A8F:1,A92:0,A93:1,AA9:0,AAA:1,AB1:0,AB2:1,AB4:0,AB5:1,",
    "ABA:0,ABC:9,ABD:1,AC1:9,AC6:0,AC7:9,AC9:1,ACA:0,ACB:1,ACD:9,ACE:0,AD0:1,AD1:0,AE0:1,AE2:9,",
    "AE4:0,AE6:1,AF1:6,AF2:0,AF9:1,AFA:9,B00:0,B01:9,B02:1,B04:0,B05:1,B0D:0,B0F:1,B11:0,B13:1,",
    "B29:0,B2A:1,B31:0,B32:1,B34:0,B35:1,B3A:0,B3C:9,B3D:1,B3F:9,B40:1,B41:9,B45:0,B47:1,B49:0,",
    "B4B:1,B4D:9,B4E:0,B55:9,B57:1,B58:0,B5C:1,B5E:0,B5F:1,B62:9,B64:0,B66:1,B78:0,B82:9,B83:1,",
    "B84:0,B85:1,B8B:0,B8E:1,B91:0,B92:1,B96:0,B99:1,B9B:0,B9C:1,B9D:0,B9E:1,BA0:0,BA3:1,BA5:0,",
    "BA8:1,BAB:0,BAE:1,BBA:0,BBE:1,BC0:9,BC1:1,BC3:0,BC6:1,BC9:0,BCA:1,BCD:9,BCE:0,BD0:1,BD1:0,",
    "BD7:1,BD8:0,BE6:1,BF3:E,BF9:6,BFA:E,BFB:0,C00:9,C01:1,C04:9,C05:1,C0D:0,C0E:1,C11:0,C12:1,",
    "C29:0,C2A:1,C3A:0,C3C:9,C3D:1,C3E:9,C41:1,C45:0,C46:9,C49:0,C4A:9,C4E:0,C55:9,C57:0,C58:1,",
    "C5B:0,C5D:1,C5E:0,C60:1,C62:9,C64:0,C66:1,C70:0,C77:1,C78:E,C7F:1,C81:9,C82:1,C8D:0,C8E:1,",
    "C91:0,C92:1,CA9:0,CAA:1,CB4:0,CB5:1,CBA:0,CBC:9,CBD:1,CC5:0,CC6:1,CC9:0,CCA:1,CCC:9,CCE:0,",
    "CD5:1,CD7:0,CDD:1,CDF:0,CE0:1,CE2:9,CE4:0,CE6:1,CF0:0,CF1:1,CF3:0,D00:9,D02:1,D0D:0,D0E:1,",
    "D11:0,D12:1,D3B:9,D3D:1,D41:9,D45:0,D46:1,D49:0,D4A:1,D4D:9,D4E:1,D50:0,D54:1,D62:9,D64:0,",
    "D66:1,D80:0,D81:9,D82:1,D84:0,D85:1,D97:0,D9A:1,DB2:0,DB3:1,DBC:0,DBD:1,DBE:0,DC0:1,DC7:0,",
    "DCA:9,DCB:0,DCF:1,DD2:9,DD5:0,DD6:9,DD7:0,DD8:1,DE0:0,DE6:1,DF0:0,DF2:1,DF5:0,E01:1,E31:9,",
    "E32:1,E34:9,E3B:0,E3F:6,E40:1,E47:9,E4F:1,E5C:0,E81:1,E83:0,E84:1,E85:0,E86:1,E8B:0,E8C:1,",
    "EA4:0,EA5:1,EA6:0,EA7:1,EB1:9,EB2:1,EB4:9,EBD:1,EBE:0,EC0:1,EC5:0,EC6:1,EC7:0,EC8:9,ECE:0,",
    "ED0:1,EDA:0,EDC:1,EE0:0,F00:1,F18:9,F1A:1,F35:9,F36:1,F37:9,F38:1,F39:9,F3A:E,F3E:1,F48:0,",
    "F49:1,F6D:0,F71:9,F7F:1,F80:9,F85:1,F86:9,F88:1,F8D:9,F98:0,F99:9,FBD:0,FBE:1,FC6:9,FC7:1,",
    "FCD:0,FCE:1,FDB:0,1000:1,102D:9,1031:1,1032:9,1038:1,1039:9,103B:1,103D:9,103F:1,1058:9,",
    "105A:1,105E:9,1061:1,1071:9,1075:1,1082:9,1083:1,1085:9,1087:1,108D:9,108E:1,109D:9,109E:1,",
    "10C6:0,10C7:1,10C8:0,10CD:1,10CE:0,10D0:1,1249:0,124A:1,124E:0,1250:1,1257:0,1258:1,1259:0,",
    "125A:1,125E:0,1260:1,1289:0,128A:1,128E:0,1290:1,12B1:0,12B2:1,12B6:0,12B8:1,12BF:0,12C0:1,",
    "12C1:0,12C2:1,12C6:0,12C8:1,12D7:0,12D8:1,1311:0,1312:1,1316:0,1318:1,135B:0,135D:9,1360:1,",
    "137D:0,1380:1,1390:E,139A:0,13A0:1,13F6:0,13F8:1,13FE:0,1400:E,1401:1,1680:D,1681:1,169B:E,",
    "169D:0,16A0:1,16F9:0,1700:1,1712:9,1715:1,1716:0,171F:1,1732:9,1734:1,1737:0,1740:1,1752:9,",
    "1754:0,1760:1,176D:0,176E:1,1771:0,1772:9,1774:0,1780:1,17B4:9,17B6:1,17B7:9,17BE:1,17C6:9,",
    "17C7:1,17C9:9,17D4:1,17DB:6,17DC:1,17DD:9,17DE:0,17E0:1,17EA:0,17F0:E,17FA:0,1800:E,180B:9,",
    "180E:A,180F:9,1810:1,181A:0,1820:1,1879:0,1880:1,1885:9,1887:1,18A9:9,18AA:1,18AB:0,18B0:1,",
    "18F6:0,1900:1,191F:0,1920:9,1923:1,1927:9,1929:1,192C:0,1930:1,1932:9,1933:1,1939:9,193C:0,",
    "1940:E,1941:0,1944:E,1946:1,196E:0,1970:1,1975:0,1980:1,19AC:0,19B0:1,19CA:0,19D0:1,19DB:0,",
    "19DE:E,1A00:1,1A17:9,1A19:1,1A1B:9,1A1C:0,1A1E:1,1A56:9,1A57:1,1A58:9,1A5F:0,1A60:9,1A61:1,",
    "1A62:9,1A63:1,1A65:9,1A6D:1,1A73:9,1A7D:0,1A7F:9,1A80:1,1A8A:0,1A90:1,1A9A:0,1AA0:1,1AAE:0,",
    "1AB0:9,1ACF:0,1B00:9,1B04:1,1B34:9,1B35:1,1B36:9,1B3B:1,1B3C:9,1B3D:1,1B42:9,1B43:1,1B4D:0,",
    "1B50:1,1B6B:9,1B74:1,1B7F:0,1B80:9,1B82:1,1BA2:9,1BA6:1,1BA8:9,1BAA:1,1BAB:9,1BAE:1,1BE6:9,",
    "1BE7:1,1BE8:9,1BEA:1,1BED:9,1BEE:1,1BEF:9,1BF2:1,1BF4:0,1BFC:1,1C2C:9,1C34:1,1C36:9,1C38:0,",
    "1C3B:1,1C4A:0,1C4D:1,1C89:0,1C90:1,1CBB:0,1CBD:1,1CC8:0,1CD0:9,1CD3:1,1CD4:9,1CE1:1,1CE2:9,",
    "1CE9:1,1CED:9,1CEE:1,1CF4:9,1CF5:1,1CF8:9,1CFA:1,1CFB:0,1D00:1,1DC0:9,1E00:1,1F16:0,1F18:1,",
    "1F1E:0,1F20:1,1F46:0,1F48:1,1F4E:0,1F50:1,1F58:0,1F59:1,1F5A:0,1F5B:1,1F5C:0,1F5D:1,1F5E:0,",
    "1F5F:1,1F7E:0,1F80:1,1FB5:0,1FB6:1,1FBD:E,1FBE:1,1FBF:E,1FC2:1,1FC5:0,1FC6:1,1FCD:E,1FD0:1,",
    "1FD4:0,1FD6:1,1FDC:0,1FDD:E,1FE0:1,1FED:E,1FF0:0,1FF2:1,1FF5:0,1FF6:1,1FFD:E,1FFF:0,2000:D,",
    "200B:A,200E:1,200F:2,2010:E,2028:D,2029:B,202A:F,202B:11,202C:13,202D:10,202E:12,202F:8,",
    "2030:6,2035:E,2044:8,2045:E,205F:D,2060:A,2065:0,2066:14,2067:15,2068:16,2069:17,206A:A,",
    "2070:4,2071:1,2072:0,2074:4,207A:5,207C:E,207F:1,2080:4,208A:5,208C:E,208F:0,2090:1,209D:0,",
    "20A0:6,20C1:0,20D0:9,20F1:0,2100:E,2102:1,2103:E,2107:1,2108:E,210A:1,2114:E,2115:1,2116:E,",
    "2119:1,211E:E,2124:1,2125:E,2126:1,2127:E,2128:1,2129:E,212A:1,212E:6,212F:1,213A:E,213C:1,",
    "2140:E,2145:1,214A:E,214E:1,2150:E,2160:1,2189:E,218C:0,2190:E,2212:5,2213:6,2214:E,2336:1,",
    "237B:E,2395:1,2396:E,2427:0,2440:E,244B:0,2460:E,2488:4,249C:1,24EA:E,26AC:1,26AD:E,2800:1,",
    "2900:E,2B74:0,2B76:E,2B96:0,2B97:E,2C00:1,2CE5:E,2CEB:1,2CEF:9,2CF2:1,2CF4:0,2CF9:E,2D00:1,",
    "2D26:0,2D27:1,2D28:0,2D2D:1,2D2E:0,2D30:1,2D68:0,2D6F:1,2D71:0,2D7F:9,2D80:1,2D97:0,2DA0:1,",
    "2DA7:0,2DA8:1,2DAF:0,2DB0:1,2DB7:0,2DB8:1,2DBF:0,2DC0:1,2DC7:0,2DC8:1,2DCF:0,2DD0:1,2DD7:0,",
    "2DD8:1,2DDF:0,2DE0:9,2E00:E,2E5E:0,2E80:E,2E9A:0,2E9B:E,2EF4:0,2F00:E,2FD6:0,2FF0:E,2FFC:0,",
    "3000:D,3001:E,3005:1,3008:E,3021:1,302A:9,302E:1,3030:E,3031:1,3036:E,3038:1,303D:E,3040:0,",
    "3041:1,3097:0,3099:9,309B:E,309D:1,30A0:E,30A1:1,30FB:E,30FC:1,3100:0,3105:1,3130:0,3131:1,",
    "318F:0,3190:1,31C0:E,31E4:0,31F0:1,321D:E,321F:0,3220:1,3250:E,3260:1,327C:E,327F:1,32B1:E,",
    "32C0:1,32CC:E,32D0:1,3377:E,337B:1,33DE:E,33E0:1,33FF:E,3400:1,4DC0:E,4E00:1,A48D:0,A490:E,",
    "A4C7:0,A4D0:1,A60D:E,A610:1,A62C:0,A640:1,A66F:9,A673:E,A674:9,A67E:E,A680:1,A69E:9,A6A0:1,",
    "A6F0:9,A6F2:1,A6F8:0,A700:E,A722:1,A788:E,A789:1,A7CB:0,A7D0:1,A7D2:0,A7D3:1,A7D4:0,A7D5:1,",
    "A7DA:0,A7F2:1,A802:9,A803:1,A806:9,A807:1,A80B:9,A80C:1,A825:9,A827:1,A828:E,A82C:9,A82D:0,",
    "A830:1,A838:6,A83A:0,A840:1,A874:E,A878:0,A880:1,A8C4:9,A8C6:0,A8CE:1,A8DA:0,A8E0:9,A8F2:1,",
    "A8FF:9,A900:1,A926:9,A92E:1,A947:9,A952:1,A954:0,A95F:1,A97D:0,A980:9,A983:1,A9B3:9,A9B4:1,",
    "A9B6:9,A9BA:1,A9BC:9,A9BE:1,A9CE:0,A9CF:1,A9DA:0,A9DE:1,A9E5:9,A9E6:1,A9FF:0,AA00:1,AA29:9,",
    "AA2F:1,AA31:9,AA33:1,AA35:9,AA37:0,AA40:1,AA43:9,AA44:1,AA4C:9,AA4D:1,AA4E:0,AA50:1,AA5A:0,",
    "AA5C:1,AA7C:9,AA7D:1,AAB0:9,AAB1:1,AAB2:9,AAB5:1,AAB7:9,AAB9:1,AABE:9,AAC0:1,AAC1:9,AAC2:1,",
    "AAC3:0,AADB:1,AAEC:9,AAEE:1,AAF6:9,AAF7:0,AB01:1,AB07:0,AB09:1,AB0F:0,AB11:1,AB17:0,AB20:1,",
    "AB27:0,AB28:1,AB2F:0,AB30:1,AB6A:E,AB6C:0,AB70:1,ABE5:9,ABE6:1,ABE8:9,ABE9:1,ABED:9,ABEE:0,",
    "ABF0:1,ABFA:0,AC00:1,D7A4:0,D7B0:1,D7C7:0,D7CB:1,D7FC:0,D800:1,FA6E:0,FA70:1,FADA:0,FB00:1,",
    "FB07:0,FB13:1,FB18:0,FB1D:2,FB1E:9,FB1F:2,FB29:5,FB2A:2,FB37:0,FB38:2,FB3D:0,FB3E:2,FB3F:0,",
    "FB40:2,FB42:0,FB43:2,FB45:0,FB46:2,FB50:3,FBC3:0,FBD3:3,FD3E:E,FD50:3,FD90:0,FD92:3,FDC8:0,",
    "FDCF:E,FDD0:0,FDF0:3,FDFD:E,FE00:9,FE10:E,FE1A:0,FE20:9,FE30:E,FE50:8,FE51:E,FE52:8,FE53:0,",
    "FE54:E,FE55:8,FE56:E,FE5F:6,FE60:E,FE62:5,FE64:E,FE67:0,FE68:E,FE69:6,FE6B:E,FE6C:0,FE70:3,",
    "FE75:0,FE76:3,FEFD:0,FEFF:A,FF00:0,FF01:E,FF03:6,FF06:E,FF0B:5,FF0C:8,FF0D:5,FF0E:8,FF10:4,",
    "FF1A:8,FF1B:E,FF21:1,FF3B:E,FF41:1,FF5B:E,FF66:1,FFBF:0,FFC2:1,FFC8:0,FFCA:1,FFD0:0,FFD2:1,",
    "FFD8:0,FFDA:1,FFDD:0,FFE0:6,FFE2:E,FFE5:6,FFE7:0,FFE8:E,FFEF:0,FFF9:E,FFFE:0,10000:1,",
    "1000C:0,1000D:1,10027:0,10028:1,1003B:0,1003C:1,1003E:0,1003F:1,1004E:0,10050:1,1005E:0,",
    "10080:1,100FB:0,10100:1,10101:E,10102:1,10103:0,10107:1,10134:0,10137:1,10140:E,1018D:1,",
    "1018F:0,10190:E,1019D:0,101A0:E,101A1:0,101D0:1,101FD:9,101FE:0,10280:1,1029D:0,102A0:1,",
    "102D1:0,102E0:9,102E1:4,102FC:0,10300:1,10324:0,1032D:1,1034B:0,10350:1,10376:9,1037B:0,",
    "10380:1,1039E:0,1039F:1,103C4:0,103C8:1,103D6:0,10400:1,1049E:0,104A0:1,104AA:0,104B0:1,",
    "104D4:0,104D8:1,104FC:0,10500:1,10528:0,10530:1,10564:0,1056F:1,1057B:0,1057C:1,1058B:0,",
    "1058C:1,10593:0,10594:1,10596:0,10597:1,105A2:0,105A3:1,105B2:0,105B3:1,105BA:0,105BB:1,",
    "105BD:0,10600:1,10737:0,10740:1,10756:0,10760:1,10768:0,10780:1,10786:0,10787:1,107B1:0,",
    "107B2:1,107BB:0,10800:2,10806:0,10808:2,10809:0,1080A:2,10836:0,10837:2,10839:0,1083C:2,",
    "1083D:0,1083F:2,10856:0,10857:2,1089F:0,108A7:2,108B0:0,108E0:2,108F3:0,108F4:2,108F6:0,",
    "108FB:2,1091C:0,1091F:E,10920:2,1093A:0,1093F:2,10940:0,10980:2,109B8:0,109BC:2,109D0:0,",
    "109D2:2,10A01:9,10A04:0,10A05:9,10A07:0,10A0C:9,10A10:2,10A14:0,10A15:2,10A18:0,10A19:2,",
    "10A36:0,10A38:9,10A3B:0,10A3F:9,10A40:2,10A49:0,10A50:2,10A59:0,10A60:2,10AA0:0,10AC0:2,",
    "10AE5:9,10AE7:0,10AEB:2,10AF7:0,10B00:2,10B36:0,10B39:E,10B40:2,10B56:0,10B58:2,10B73:0,",
    "10B78:2,10B92:0,10B99:2,10B9D:0,10BA9:2,10BB0:0,10C00:2,10C49:0,10C80:2,10CB3:0,10CC0:2,",
    "10CF3:0,10CFA:2,10D00:3,10D24:9,10D28:0,10D30:7,10D3A:0,10E60:7,10E7F:0,10E80:2,10EAA:0,",
    "10EAB:9,10EAD:2,10EAE:0,10EB0:2,10EB2:0,10F00:2,10F28:0,10F30:3,10F46:9,10F51:3,10F5A:0,",
    "10F70:2,10F82:9,10F86:2,10F8A:0,10FB0:2,10FCC:0,10FE0:2,10FF7:0,11000:1,11001:9,11002:1,",
    "11038:9,11047:1,1104E:0,11052:E,11066:1,11070:9,11071:1,11073:9,11075:1,11076:0,1107F:9,",
    "11082:1,110B3:9,110B7:1,110B9:9,110BB:1,110C2:9,110C3:0,110CD:1,110CE:0,110D0:1,110E9:0,",
    "110F0:1,110FA:0,11100:9,11103:1,11127:9,1112C:1,1112D:9,11135:0,11136:1,11148:0,11150:1,",
    "11173:9,11174:1,11177:0,11180:9,11182:1,111B6:9,111BF:1,111C9:9,111CD:1,111CF:9,111D0:1,",
    "111E0:0,111E1:1,111F5:0,11200:1,11212:0,11213:1,1122F:9,11232:1,11234:9,11235:1,11236:9,",
    "11238:1,1123E:9,1123F:0,11280:1,11287:0,11288:1,11289:0,1128A:1,1128E:0,1128F:1,1129E:0,",
    "1129F:1,112AA:0,112B0:1,112DF:9,112E0:1,112E3:9,112EB:0,112F0:1,112FA:0,11300:9,11302:1,",
    "11304:0,11305:1,1130D:0,1130F:1,11311:0,11313:1,11329:0,1132A:1,11331:0,11332:1,11334:0,",
    "11335:1,1133A:0,1133B:9,1133D:1,11340:9,11341:1,11345:0,11347:1,11349:0,1134B:1,1134E:0,",
    "11350:1,11351:0,11357:1,11358:0,1135D:1,11364:0,11366:9,1136D:0,11370:9,11375:0,11400:1,",
    "11438:9,11440:1,11442:9,11445:1,11446:9,11447:1,1145C:0,1145D:1,1145E:9,1145F:1,11462:0,",
    "11480:1,114B3:9,114B9:1,114BA:9,114BB:1,114BF:9,114C1:1,114C2:9,114C4:1,114C8:0,114D0:1,",
    "114DA:0,11580:1,115B2:9,115B6:0,115B8:1,115BC:9,115BE:1,115BF:9,115C1:1,115DC:9,115DE:0,",
    "11600:1,11633:9,1163B:1,1163D:9,1163E:1,1163F:9,11641:1,11645:0,11650:1,1165A:0,11660:E,",
    "1166D:0,11680:1,116AB:9,116AC:1,116AD:9,116AE:1,116B0:9,116B6:1,116B7:9,116B8:1,116BA:0,",
    "116C0:1,116CA:0,11700:1,1171B:0,1171D:9,11720:1,11722:9,11726:1,11727:9,1172C:0,11730:1,",
    "11747:0,11800:1,1182F:9,11838:1,11839:9,1183B:1,1183C:0,118A0:1,118F3:0,118FF:1,11907:0,",
    "11909:1,1190A:0,1190C:1,11914:0,11915:1,11917:0,11918:1,11936:0,11937:1,11939:0,1193B:9,",
    "1193D:1,1193E:9,1193F:1,11943:9,11944:1,11947:0,11950:1,1195A:0,119A0:1,119A8:0,119AA:1,",
    "119D4:9,119D8:0,119DA:9,119DC:1,119E0:9,119E1:1,119E5:0,11A00:1,11A01:9,11A07:1,11A09:9,",
    "11A0B:1,11A33:9,11A39:1,11A3B:9,11A3F:1,11A47:9,11A48:0,11A50:1,11A51:9,11A57:1,11A59:9,",
    "11A5C:1,11A8A:9,11A97:1,11A98:9,11A9A:1,11AA3:0,11AB0:1,11AF9:0,11C00:1,11C09:0,11C0A:1,",
    "11C30:9,11C37:0,11C38:9,11C3E:1,11C46:0,11C50:1,11C6D:0,11C70:1,11C90:0,11C92:9,11CA8:0,",
    "11CA9:1,11CAA:9,11CB1:1,11CB2:9,11CB4:1,11CB5:9,11CB7:0,11D00:1,11D07:0,11D08:1,11D0A:0,",
    "11D0B:1,11D31:9,11D37:0,11D3A:9,11D3B:0,11D3C:9,11D3E:0,11D3F:9,11D46:1,11D47:9,11D48:0,",
    "11D50:1,11D5A:0,11D60:1,11D66:0,11D67:1,11D69:0,11D6A:1,11D8F:0,11D90:9,11D92:0,11D93:1,",
    "11D95:9,11D96:1,11D97:9,11D98:1,11D99:0,11DA0:1,11DAA:0,11EE0:1,11EF3:9,11EF5:1,11EF9:0,",
    "11FB0:1,11FB1:0,11FC0:1,11FD5:E,11FDD:6,11FE1:E,11FF2:0,11FFF:1,1239A:0,12400:1,1246F:0,",
    "12470:1,12475:0,12480:1,12544:0,12F90:1,12FF3:0,13000:1,1342F:0,13430:1,13439:0,14400:1,",
    "14647:0,16800:1,16A39:0,16A40:1,16A5F:0,16A60:1,16A6A:0,16A6E:1,16ABF:0,16AC0:1,16ACA:0,",
    "16AD0:1,16AEE:0,16AF0:9,16AF5:1,16AF6:0,16B00:1,16B30:9,16B37:1,16B46:0,16B50:1,16B5A:0,",
    "16B5B:1,16B62:0,16B63:1,16B78:0,16B7D:1,16B90:0,16E40:1,16E9B:0,16F00:1,16F4B:0,16F4F:9,",
    "16F50:1,16F88:0,16F8F:9,16F93:1,16FA0:0,16FE0:1,16FE2:E,16FE3:1,16FE4:9,16FE5:0,16FF0:1,",
    "16FF2:0,17000:1,187F8:0,18800:1,18CD6:0,18D00:1,18D09:0,1AFF0:1,1AFF4:0,1AFF5:1,1AFFC:0,",
    "1AFFD:1,1AFFF:0,1B000:1,1B123:0,1B150:1,1B153:0,1B164:1,1B168:0,1B170:1,1B2FC:0,1BC00:1,",
    "1BC6B:0,1BC70:1,1BC7D:0,1BC80:1,1BC89:0,1BC90:1,1BC9A:0,1BC9C:1,1BC9D:9,1BC9F:1,1BCA0:A,",
    "1BCA4:0,1CF00:9,1CF2E:0,1CF30:9,1CF47:0,1CF50:1,1CFC4:0,1D000:1,1D0F6:0,1D100:1,1D127:0,",
    "1D129:1,1D167:9,1D16A:1,1D173:A,1D17B:9,1D183:1,1D185:9,1D18C:1,1D1AA:9,1D1AE:1,1D1E9:E,",
    "1D1EB:0,1D200:E,1D242:9,1D245:E,1D246:0,1D2E0:1,1D2F4:0,1D300:E,1D357:0,1D360:1,1D379:0,",
    "1D400:1,1D455:0,1D456:1,1D49D:0,1D49E:1,1D4A0:0,1D4A2:1,1D4A3:0,1D4A5:1,1D4A7:0,1D4A9:1,",
    "1D4AD:0,1D4AE:1,1D4BA:0,1D4BB:1,1D4BC:0,1D4BD:1,1D4C4:0,1D4C5:1,1D506:0,1D507:1,1D50B:0,",
    "1D50D:1,1D515:0,1D516:1,1D51D:0,1D51E:1,1D53A:0,1D53B:1,1D53F:0,1D540:1,1D545:0,1D546:1,",
    "1D547:0,1D54A:1,1D551:0,1D552:1,1D6A6:0,1D6A8:1,1D6DB:E,1D6DC:1,1D715:E,1D716:1,1D74F:E,",
    "1D750:1,1D789:E,1D78A:1,1D7C3:E,1D7C4:1,1D7CC:0,1D7CE:4,1D800:1,1DA00:9,1DA37:1,1DA3B:9,",
    "1DA6D:1,1DA75:9,1DA76:1,1DA84:9,1DA85:1,1DA8C:0,1DA9B:9,1DAA0:0,1DAA1:9,1DAB0:0,1DF00:1,",
    "1DF1F:0,1E000:9,1E007:0,1E008:9,1E019:0,1E01B:9,1E022:0,1E023:9,1E025:0,1E026:9,1E02B:0,",
    "1E100:1,1E12D:0,1E130:9,1E137:1,1E13E:0,1E140:1,1E14A:0,1E14E:1,1E150:0,1E290:1,1E2AE:9,",
    "1E2AF:0,1E2C0:1,1E2EC:9,1E2F0:1,1E2FA:0,1E2FF:6,1E300:0,1E7E0:1,1E7E7:0,1E7E8:1,1E7EC:0,",
    "1E7ED:1,1E7EF:0,1E7F0:1,1E7FF:0,1E800:2,1E8C5:0,1E8C7:2,1E8D0:9,1E8D7:0,1E900:2,1E944:9,",
    "1E94B:2,1E94C:0,1E950:2,1E95A:0,1E95E:2,1E960:0,1EC71:3,1ECB5:0,1ED01:3,1ED3E:0,1EE00:3,",
    "1EE04:0,1EE05:3,1EE20:0,1EE21:3,1EE23:0,1EE24:3,1EE25:0,1EE27:3,1EE28:0,1EE29:3,1EE33:0,",
    "1EE34:3,1EE38:0,1EE39:3,1EE3A:0,1EE3B:3,1EE3C:0,1EE42:3,1EE43:0,1EE47:3,1EE48:0,1EE49:3,",
    "1EE4A:0,1EE4B:3,1EE4C:0,1EE4D:3,1EE50:0,1EE51:3,1EE53:0,1EE54:3,1EE55:0,1EE57:3,1EE58:0,",
    "1EE59:3,1EE5A:0,1EE5B:3,1EE5C:0,1EE5D:3,1EE5E:0,1EE5F:3,1EE60:0,1EE61:3,1EE63:0,1EE64:3,",
    "1EE65:0,1EE67:3,1EE6B:0,1EE6C:3,1EE73:0,1EE74:3,1EE78:0,1EE79:3,1EE7D:0,1EE7E:3,1EE7F:0,",
    "1EE80:3,1EE8A:0,1EE8B:3,1EE9C:0,1EEA1:3,1EEA4:0,1EEA5:3,1EEAA:0,1EEAB:3,1EEBC:0,1EEF0:E,",
    "1EEF2:0,1F000:E,1F02C:0,1F030:E,1F094:0,1F0A0:E,1F0AF:0,1F0B1:E,1F0C0:0,1F0C1:E,1F0D0:0,",
    "1F0D1:E,1F0F6:0,1F100:4,1F10B:E,1F110:1,1F12F:E,1F130:1,1F16A:E,1F170:1,1F1AD:E,1F1AE:0,",
    "1F1E6:1,1F203:0,1F210:1,1F23C:0,1F240:1,1F249:0,1F250:1,1F252:0,1F260:E,1F266:0,1F300:E,",
    "1F6D8:0,1F6DD:E,1F6ED:0,1F6F0:E,1F6FD:0,1F700:E,1F774:0,1F780:E,1F7D9:0,1F7E0:E,1F7EC:0,",
    "1F7F0:E,1F7F1:0,1F800:E,1F80C:0,1F810:E,1F848:0,1F850:E,1F85A:0,1F860:E,1F888:0,1F890:E,",
    "1F8AE:0,1F8B0:E,1F8B2:0,1F900:E,1FA54:0,1FA60:E,1FA6E:0,1FA70:E,1FA75:0,1FA78:E,1FA7D:0,",
    "1FA80:E,1FA87:0,1FA90:E,1FAAD:0,1FAB0:E,1FABB:0,1FAC0:E,1FAC6:0,1FAD0:E,1FADA:0,1FAE0:E,",
    "1FAE8:0,1FAF0:E,1FAF7:0,1FB00:E,1FB93:0,1FB94:E,1FBCB:0,1FBF0:4,1FBFA:0,20000:1,2A6E0:0,",
    "2A700:1,2B739:0,2B740:1,2B81E:0,2B820:1,2CEA2:0,2CEB0:1,2EBE1:0,2F800:1,2FA1E:0,30000:1,",
    "3134B:0,E0001:A,E0002:0,E0020:A,E0080:0,E0100:9,E01F0:0,F0000:1,FFFFE:0,100000:1,10FFFE:0,"]

def bidiClass (c : Char) : BidiClass := BidiClass.ofIndex (bidiTable.lookup c.toNat)

end SuggestGateway
